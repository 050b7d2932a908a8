import Pets.Library.Ownership
import Pets.Todoey.CategoryViewController
import Pets.Todoey.Search

set_option autoImplicit false

namespace Pets.Todoey

open Pets.Lists Pets.Ownership Pets.Transition

structure ReferentialIntegrity (realm : Realm) : Prop where
  owned : ∀ item ∈ realm.items, ∃ category ∈ realm.categories, category.items.count item.id = 1 ∧
    ∀ other ∈ realm.categories, item.id ∈ other.items → other = category
  valid : ∀ category ∈ realm.categories, ∀ id ∈ category.items, ∃ item ∈ realm.items, item.id = id
  items : (realm.items.map Item.id).Nodup
  categories : (realm.categories.map Category.id).Nodup

structure DeletesOnly (category : Category) (before after : Realm) : Prop where
  categories : after.categories = before.categories.filter fun other => other ≠ category
  items : after.items = before.items.filter fun item => item.id ∉ category.items
  others : ∀ other ∈ before.categories, other ≠ category → listItems after other.id = listItems before other.id

structure Sound (realm : Realm) : Prop where
  partition : Partition Category.id Category.items realm.categories (realm.items.map Item.id)
  categoryIds : Below realm.nextId (realm.categories.map Category.id)
  itemIds : Below realm.nextId (realm.items.map Item.id)

theorem launched_sound : Sound launched.realm :=
  ⟨partition_empty _ _, fun _ used => (by cases used), fun _ used => (by cases used)⟩

theorem add_category_sound (realm : Realm) (title : String) (now : Date) (inv : Sound realm) :
    Sound (addCategory realm title now) := by
  have unused := below_unused _ _ inv.categoryIds
  refine ⟨partition_add_row _ _ _ _ _ inv.partition rfl unused, ?_, below_later _ _ inv.itemIds⟩
  rw [addCategory, List.map_append, List.map_singleton]
  exact below_snoc _ _ inv.categoryIds

theorem append_id (category : Category) (target item : ObjectId) : (category.append target item).id = category.id := by
  by_cases here : category.id = target
  · rw [Category.append, if_pos here]
  · rw [Category.append, if_neg here]

theorem append_items (category : Category) (target item : ObjectId) :
    (category.append target item).items =
      if category.id = target then category.items ++ [item] else category.items := by
  by_cases here : category.id = target
  · rw [Category.append, if_pos here, if_pos here]
  · rw [Category.append, if_neg here, if_neg here]

theorem append_item_sound (realm after : Realm) (category : ObjectId) (title : String) (now : Date)
    (inv : Sound realm) (appended : appendItem realm category title now = some after) : Sound after := by
  by_cases present : category ∈ realm.categories.map Category.id
  · rw [appendItem, if_pos present] at appended
    cases appended
    have sameIds : (realm.categories.map fun stored => stored.append category realm.nextId).map Category.id =
        realm.categories.map Category.id := by
      rw [List.map_map]
      exact List.map_congr_left fun stored _ => append_id stored category realm.nextId
    refine ⟨?_, ?_, ?_⟩
    · rw [List.map_append, List.map_singleton]
      exact partition_append_member _ _ _ _ category realm.nextId _ inv.partition present
        (below_unused _ _ inv.itemIds) (fun stored => append_id stored category realm.nextId)
        (fun stored => append_items stored category realm.nextId)
    · rw [sameIds]
      exact below_later _ _ inv.categoryIds
    · rw [List.map_append, List.map_singleton]
      exact below_snoc _ _ inv.itemIds
  · rw [appendItem, if_neg present] at appended
    cases appended

theorem set_done_ids (realm : Realm) (item : ObjectId) (done : Bool) :
    (setDone realm item done).items.map Item.id = realm.items.map Item.id := by
  rw [setDone, List.map_map]
  apply List.map_congr_left
  intro stored _
  by_cases here : stored.id = item
  · simp [here]
  · simp [here]

theorem set_done_sound (realm : Realm) (item : ObjectId) (done : Bool) (inv : Sound realm) :
    Sound (setDone realm item done) := by
  have ids := set_done_ids realm item done
  exact ⟨by rw [ids]; exact inv.partition, inv.categoryIds, by rw [ids]; exact inv.itemIds⟩

theorem delete_items_ids (realm : Realm) (deleted : List ObjectId) :
    (deleteItems realm deleted).items.map Item.id = (realm.items.map Item.id).filter fun id => id ∉ deleted := by
  rw [List.filter_map]
  rfl

theorem without_ids (categories : List Category) (deleted : List ObjectId) :
    (categories.map fun category => category.without deleted).map Category.id = categories.map Category.id := by
  rw [List.map_map]
  rfl

theorem delete_items_sound (realm : Realm) (deleted : List ObjectId) (inv : Sound realm) :
    Sound (deleteItems realm deleted) := by
  refine ⟨?_, ?_, ?_⟩
  · rw [delete_items_ids]
    exact partition_filter_members _ _ _ _ _ _ inv.partition (fun _ => rfl) (fun _ => rfl)
  · rw [deleteItems, without_ids]
    exact inv.categoryIds
  · rw [delete_items_ids]
    exact below_sublist _ _ _ inv.itemIds List.filter_sublist

theorem delete_category_sound (realm : Realm) (category : Category) (inv : Sound realm)
    (present : category ∈ realm.categories) :
    Sound (deleteCategory (deleteItems realm category.items) category.id) := by
  have emptied := delete_items_sound realm category.items inv
  refine ⟨?_, below_sublist _ _ _ emptied.categoryIds (List.filter_sublist.map _), emptied.itemIds⟩
  apply partition_drop_empty _ _ _ _ _ emptied.partition
  intro changed stored dropped
  obtain ⟨earlier, inRealm, rfl⟩ := List.mem_map.mp stored
  have sameId : earlier.id = category.id := by simpa [Category.without] using dropped
  have same : earlier = category := List.inj_on_of_nodup_map inv.partition.owners inRealm present sameId
  rw [same]
  exact List.filter_eq_nil_iff.mpr fun id listed => by simp [listed]

theorem store_step_sound (realm after : Realm) (inv : Sound realm) (moved : StoreStep realm after) : Sound after := by
  cases moved with
  | unchanged => exact inv
  | addedCategory title now => exact add_category_sound realm title now inv
  | appended category title now after stored => exact append_item_sound realm _ category title now inv stored
  | setDone item done => exact set_done_sound realm item done inv
  | deletedItem item => exact delete_items_sound realm [item] inv
  | deletedCategory category present => exact delete_category_sound realm category inv present

theorem run_sound (contains : String → String → Bool) (events : List AppEvent) (app : App)
    (ran : run (appStep contains) launched events = some app) : Sound app.realm := by
  apply run_invariant (appStep contains) launched (fun _ app => Sound app.realm) launched_sound _ events app ran
  intro _ app event next inv moved
  exact store_step_sound app.realm next.realm inv (app_store_step contains app next event moved)

theorem sound_integrity (realm : Realm) (inv : Sound realm) : ReferentialIntegrity realm := by
  refine ⟨?_, ?_, inv.partition.distinct, inv.partition.owners⟩
  · intro item stored
    exact partition_owned_once _ _ _ _ inv.partition item.id (List.mem_map_of_mem stored)
  · intro category stored id listed
    exact List.mem_map.mp (partition_stored _ _ _ _ inv.partition category stored id listed)

theorem list_items_stored (realm : Realm) (distinct : (realm.categories.map Category.id).Nodup) (category : Category)
    (stored : category ∈ realm.categories) :
    listItems realm category.id =
      category.items.filterMap fun id => realm.items.find? fun item => item.id = id := by
  rw [listItems, find_keyed Category.id realm.categories distinct category stored]

section Deletion

variable (realm : Realm) (category : Category) (inv : Sound realm) (present : category ∈ realm.categories)

include inv present

theorem other_items_apart (other : Category) (stored : other ∈ realm.categories) (different : other ≠ category)
    (id : ObjectId) (listed : id ∈ other.items) : id ∉ category.items :=
  fun alsoListed =>
    different (partition_disjoint _ _ _ _ inv.partition category other present stored id alsoListed listed)

theorem other_list_kept (other : Category) (stored : other ∈ realm.categories) (different : other ≠ category) :
    other.without category.items = other := by
  have kept : other.items.filter (fun id => id ∉ category.items) = other.items :=
    List.filter_eq_self.mpr fun id listed =>
      decide_eq_true (other_items_apart realm category inv present other stored different id listed)
  rw [Category.without, kept]

theorem remaining_categories :
    (deleteCategory (deleteItems realm category.items) category.id).categories =
      realm.categories.filter fun other => other ≠ category := by
  have sameId : ∀ other ∈ realm.categories, (other.id ≠ category.id ↔ other ≠ category) := by
    intro other stored
    exact not_congr ⟨List.inj_on_of_nodup_map inv.partition.owners stored present, fun same => by rw [same]⟩
  have chosen : realm.categories.filter ((fun stored : Category => decide (stored.id ≠ category.id)) ∘
      fun other => other.without category.items) = realm.categories.filter fun other => other ≠ category :=
    List.filter_congr fun other stored => decide_eq_decide.mpr (sameId other stored)
  calc (realm.categories.map fun other => other.without category.items).filter (fun stored => stored.id ≠ category.id)
      = (realm.categories.filter fun other => other ≠ category).map fun other => other.without category.items := by
        rw [List.filter_map, chosen]
    _ = (realm.categories.filter fun other => other ≠ category).map id := by
        apply List.map_congr_left
        intro other kept
        obtain ⟨stored, different⟩ := List.mem_filter.mp kept
        exact other_list_kept realm category inv present other stored (of_decide_eq_true different)
    _ = realm.categories.filter fun other => other ≠ category := List.map_id _

theorem other_items_found (other : Category) (stored : other ∈ realm.categories) (different : other ≠ category) :
    listItems (deleteCategory (deleteItems realm category.items) category.id) other.id = listItems realm other.id := by
  have after := delete_category_sound realm category inv present
  have kept : other ∈ (deleteCategory (deleteItems realm category.items) category.id).categories := by
    rw [remaining_categories realm category inv present]
    exact List.mem_filter.mpr ⟨stored, decide_eq_true different⟩
  rw [list_items_stored _ after.partition.owners other kept, list_items_stored _ inv.partition.owners other stored]
  apply List.filterMap_congr
  intro id listed
  have apart := other_items_apart realm category inv present other stored different id listed
  change (realm.items.filter fun item => item.id ∉ category.items).find? (fun item => item.id = id) = _
  rw [List.find?_filter]
  congr 1
  funext item
  by_cases here : item.id = id
  · simp [here, apart]
  · simp [here]

theorem delete_category_only :
    DeletesOnly category realm (deleteCategory (deleteItems realm category.items) category.id) :=
  ⟨remaining_categories realm category inv present, rfl, other_items_found realm category inv present⟩

end Deletion

theorem store_stays_integral (contains : String → String → Bool) (events : List AppEvent) (app : App)
    (ran : run (appStep contains) launched events = some app) :
    ReferentialIntegrity app.realm ∧
      ∀ row next, appStep contains app (.delete row true) = some next →
        ∃ category, (categories app.realm)[row]? = some category ∧ DeletesOnly category app.realm next.realm ∧
          ReferentialIntegrity next.realm := by
  have inv := run_sound contains events app ran
  refine ⟨sound_integrity app.realm inv, ?_⟩
  intro row next moved
  obtain ⟨realm, deleted, rfl⟩ := Option.map_eq_some_iff.mp moved
  obtain ⟨category, listed, present, rfl⟩ := deleted_row app.realm realm row true deleted
  exact ⟨category, listed, delete_category_only app.realm category inv present,
    sound_integrity _ (delete_category_sound app.realm category inv present)⟩

theorem home_with_milk_integral :
    ReferentialIntegrity ⟨[⟨0, some "Home", some 0, [1]⟩], [⟨1, some "Milk", false, some 1⟩], 2⟩ ∧
      ∃ category, category ∈ [(⟨0, some "Home", some 0, [1]⟩ : Category)] ∧
        DeletesOnly category ⟨[⟨0, some "Home", some 0, [1]⟩], [⟨1, some "Milk", false, some 1⟩], 2⟩ ⟨[], [], 2⟩ := by
  have integral := store_stays_integral containsFolded [.add "Home" 0 true, .openRow 0, .item (.add "Milk" 1 true)]
    ⟨⟨[⟨0, some "Home", some 0, [1]⟩], [⟨1, some "Milk", false, some 1⟩], 2⟩,
      some ⟨some 0, some (LiveView.all 0).sorted, ""⟩⟩ (by decide +kernel)
  obtain ⟨category, listed, only, _⟩ := integral.2 0
    ⟨⟨[], [], 2⟩, some ⟨some 0, some (LiveView.all 0).sorted, ""⟩⟩ (by decide +kernel)
  exact ⟨integral.1, category, (mem_categories _ _).mp (List.mem_of_getElem? listed), only⟩

end Pets.Todoey
