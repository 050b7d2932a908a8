import Mathlib.Data.List.Induction
import Mathlib.Data.List.Nodup
import Mathlib.Data.List.Perm.Subperm

set_option autoImplicit false

namespace Pets.Lists

variable {Item Key : Type*}

theorem find_keyed [DecidableEq Key] (key : Item → Key) (items : List Item) (distinct : (items.map key).Nodup)
    (item : Item) (member : item ∈ items) : items.find? (fun other => key other = key item) = some item := by
  have found : (items.find? fun other => key other = key item).isSome :=
    List.find?_isSome.mpr ⟨item, member, decide_eq_true rfl⟩
  obtain ⟨other, same⟩ := Option.isSome_iff_exists.mp found
  have sameKey : key other = key item := by simpa using List.find?_some same
  rw [same, List.inj_on_of_nodup_map distinct (List.mem_of_find?_eq_some same) member sameKey]

theorem nodup_snoc (keys : List Key) (key : Key) (distinct : keys.Nodup) (fresh : key ∉ keys) :
    (keys ++ [key]).Nodup :=
  List.nodup_append_comm.mp (List.nodup_cons.mpr ⟨fresh, distinct⟩)

-- Narrowing a list twice keeps what one narrowing keeps only if the other removes nothing of it.
theorem filter_narrower_iff (items : List Item) (wide narrow : Item → Bool)
    (inside : ∀ item ∈ items, narrow item = true → wide item = true) :
    (items.filter narrow).Perm (items.filter wide) ↔ ∀ item ∈ items, wide item = true → narrow item = true := by
  constructor
  · intro same item member holds
    have kept : item ∈ items.filter narrow := same.mem_iff.mpr (List.mem_filter.mpr ⟨member, holds⟩)
    exact (List.mem_filter.mp kept).2
  · intro outside
    apply List.Perm.of_eq
    apply List.filter_congr
    intro item member
    exact Bool.eq_iff_iff.mpr ⟨inside item member, outside item member⟩

theorem filter_erases_iff [DecidableEq Key] (keys : List Key) (row : ℕ) (key : Key) (listed : keys[row]? = some key) :
    keys.filter (fun other => other ≠ key) = keys.eraseIdx row ↔ keys.count key = 1 := by
  induction keys generalizing row with
  | nil => cases listed
  | cons first rest ih =>
      cases row with
      | zero =>
          cases listed
          rw [List.filter_cons_of_neg (by simp), List.eraseIdx_cons_zero, List.count_cons_self, List.filter_eq_self,
            Nat.add_eq_right, List.count_eq_zero]
          constructor
          · intro different member
            exact absurd rfl (of_decide_eq_true (different key member))
          · intro absent other member
            exact decide_eq_true fun same => absent (same ▸ member)
      | succ row =>
          rw [List.getElem?_cons_succ] at listed
          have inRest := List.mem_of_getElem? listed
          by_cases same : first = key
          · subst same
            rw [List.eraseIdx_cons_succ, List.count_cons_self]
            constructor
            · intro erased
              have member : first ∈ (first :: rest).filter fun other => other ≠ first := erased ▸ List.mem_cons_self
              exact absurd rfl (of_decide_eq_true (List.mem_filter.mp member).2)
            · intro once
              have copies := List.count_pos_iff.mpr inRest
              omega
          · rw [List.filter_cons_of_pos (by simpa using same), List.eraseIdx_cons_succ, List.count_cons_of_ne same,
              List.cons_inj_right]
            exact ih row listed

theorem filter_without_cons [DecidableEq Item] (items : List Item) (first : Item) (rest : List Item) :
    (items.filter fun item => item ≠ first).filter (fun item => item ∉ rest) =
      items.filter fun item => item ∉ first :: rest := by
  rw [List.filter_filter]
  apply List.filter_congr
  intro item _
  simp only [List.mem_cons, not_or, Bool.decide_and, Bool.and_comm]

theorem guarded_foldl {State : Type*} (step : State → Item → State) (start : State) (items : List Item) :
    (if items.isEmpty then start else items.foldl step start) = items.foldl step start := by
  cases items with
  | nil => rfl
  | cons item rest => rfl

-- Identifiers handed out in order: every one in use lies below the next.
def Below (next : ℕ) (ids : List ℕ) : Prop := ∀ id ∈ ids, id < next

theorem below_unused (next : ℕ) (ids : List ℕ) (below : Below next ids) : next ∉ ids :=
  fun used => Nat.lt_irrefl next (below next used)

theorem below_later (next : ℕ) (ids : List ℕ) (below : Below next ids) : Below (next + 1) ids :=
  fun id used => Nat.lt_succ_of_lt (below id used)

theorem below_snoc (next : ℕ) (ids : List ℕ) (below : Below next ids) : Below (next + 1) (ids ++ [next]) := by
  intro id used
  rcases List.mem_append.mp used with earlier | added
  · exact below_later next ids below id earlier
  · rw [List.mem_singleton.mp added]
    exact Nat.lt_succ_self next

theorem below_sublist (next : ℕ) (ids fewer : List ℕ) (below : Below next ids) (sublist : fewer.Sublist ids) :
    Below next fewer :=
  fun id used => below id (sublist.mem used)

theorem nth_occurrence [DecidableEq Item] (items : List Item) (item : Item) (nth : ℕ)
    (positive : 0 < nth) (enough : nth ≤ items.count item) :
    ∃ before after, items = before ++ item :: after ∧ before.count item + 1 = nth := by
  induction items using List.reverseRecOn with
  | nil =>
      rw [List.count_nil] at enough
      omega
  | append_singleton items last ih =>
      by_cases earlier : nth ≤ items.count item
      · obtain ⟨before, after, split, count⟩ := ih earlier
        exact ⟨before, after ++ [last], by rw [split, List.append_assoc]; rfl, count⟩
      · rw [List.count_append, List.count_singleton] at enough
        by_cases same : last = item
        · rw [if_pos (by rw [same]; exact beq_self_eq_true item)] at enough
          exact ⟨items, [], by rw [same], by omega⟩
        · rw [if_neg (by simpa using same)] at enough
          omega

theorem mapM_map_some {Code : Type*} (encode : Item → Code) (decode : Code → Option Item)
    (exact : ∀ item, decode (encode item) = some item) (items : List Item) :
    (items.map encode).mapM decode = some items := by
  induction items with
  | nil => rfl
  | cons item rest ih => simp [exact item, ih]

theorem mapM_none {Code : Type*} (decode : Code → Option Item) (codes : List Code) (code : Code) (member : code ∈ codes)
    (undecodable : decode code = none) : codes.mapM decode = none := by
  induction codes with
  | nil => cases member
  | cons first rest ih =>
      rw [List.mapM_cons]
      rcases List.mem_cons.mp member with rfl | later
      · rw [undecodable]
        rfl
      · rw [ih later]
        cases decode first <;> rfl

theorem subperm_filter_map {Image : Type*} (image : Item → Option Image) (fewer items : List Item)
    (subperm : fewer.Subperm items) : (fewer.filterMap image).Subperm (items.filterMap image) := by
  obtain ⟨same, perm, sublist⟩ := subperm
  exact ⟨same.filterMap image, perm.filterMap image, sublist.filterMap image⟩

theorem utf8_between_inj (front back left right : String)
    (same : (front ++ left ++ back).toUTF8.data.toList = (front ++ right ++ back).toUTF8.data.toList) :
    left = right := by
  have texts := String.toByteArray_inj.mp (ByteArray.ext (Array.toList_inj.mp same))
  exact (String.append_right_inj _).mp ((String.append_left_inj _).mp texts)

end Pets.Lists
