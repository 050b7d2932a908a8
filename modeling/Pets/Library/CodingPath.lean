import Pets.Library.JSONDecoder

set_option autoImplicit false

namespace Pets.JSONDecoder

variable {Value Next : Type}

def DecodingError.codingPath : DecodingError → List Key
  | .keyNotFound _ codingPath => codingPath
  | .valueNotFound codingPath => codingPath
  | .typeMismatch codingPath => codingPath
  | .dataCorrupted codingPath => codingPath

def Pattern.Takes : Pattern → Key → Prop
  | .name label, key => key = .name label
  | .each, key => ∃ position, key = .index position

def Misfit (rest : List Pattern) (kind : Kind) (json : Json) : Prop :=
  match rest with
  | [] => ¬ kind.Holds json
  | .name _ :: _ => ∀ members, json ≠ .object members
  | .each :: _ => ∀ items, json ≠ .array items

-- What the error says about the place it names, where rest and kind are what
-- the schema still asks for.
def DecodingError.Describes (error : DecodingError) (rest : List Pattern) (kind : Kind) (json : Json) : Prop :=
  match error with
  | .keyNotFound key _ =>
      rest.head? = some (.name key) ∧ (∃ members, json = .object members) ∧ child? json (.name key) = none
  | .valueNotFound _ => json = .null
  | .typeMismatch _ => json ≠ .null ∧ Misfit rest kind json
  | .dataCorrupted _ => rest = [] ∧ kind ≠ .string ∧ (∃ value, json = .number value) ∧ ¬ kind.Holds json

def DecodingError.Blames (error : DecodingError) (codingPath : List Key) (schema : Schema) (json : Json) : Prop :=
  ∃ field ∈ schema, ∃ taken rest keys place, field.1 = taken ++ rest ∧ List.Forall₂ Pattern.Takes taken keys ∧
    at? json keys = some place ∧ error.codingPath = codingPath ++ keys ∧ error.Describes rest field.2 place

def Blaming (decoder : Decoder Value) (schema : Schema) : Prop :=
  ∀ codingPath json error, decoder codingPath json = .error error → error.Blames codingPath schema json

theorem conforms_along (taken rest : List Pattern) (kind : Kind) (keys : List Key) (json place : Json)
    (takes : List.Forall₂ Pattern.Takes taken keys) (found : at? json keys = some place)
    (conforms : Conforms (taken ++ rest) kind json) : Conforms rest kind place := by
  induction takes generalizing json with
  | nil =>
      cases found
      exact conforms
  | @cons pattern key _ _ takes _ ih =>
      obtain ⟨child, step, remaining⟩ := Option.bind_eq_some_iff.mp found
      cases pattern with
      | name name =>
          obtain ⟨value, member, inner⟩ := conforms
          cases takes
          cases member.symm.trans step
          exact ih child remaining inner
      | each =>
          obtain ⟨items, rfl, inner⟩ := conforms
          obtain ⟨position, rfl⟩ := takes
          exact ih child remaining (inner child (List.mem_of_getElem? step))

theorem misfit_nonconforming (rest : List Pattern) (kind : Kind) (json : Json) (misfit : Misfit rest kind json) :
    ¬ Conforms rest kind json := by
  intro conforms
  cases rest with
  | nil => exact misfit conforms
  | cons pattern rest =>
      cases pattern with
      | name name =>
          obtain ⟨value, member, _⟩ := conforms
          cases json with
          | object members => exact misfit members rfl
          | _ => cases member
      | each =>
          obtain ⟨items, same, _⟩ := conforms
          exact misfit items same

theorem null_nonconforming (rest : List Pattern) (kind : Kind) : ¬ Conforms rest kind .null := by
  apply misfit_nonconforming
  cases rest with
  | nil => cases kind <;> exact Bool.false_ne_true
  | cons pattern rest =>
      cases pattern <;>
      · intro parts impossible
        cases impossible

theorem described_nonconforming (error : DecodingError) (rest : List Pattern) (kind : Kind) (json : Json)
    (describes : error.Describes rest kind json) : ¬ Conforms rest kind json := by
  cases error with
  | keyNotFound key _ =>
      obtain ⟨head, _, missing⟩ := describes
      obtain ⟨others, rfl⟩ := List.head?_eq_some_iff.mp head
      intro ⟨value, member, _⟩
      cases missing.symm.trans member
  | valueNotFound _ =>
      rw [DecodingError.Describes] at describes
      rw [describes]
      exact null_nonconforming rest kind
  | typeMismatch _ => exact misfit_nonconforming rest kind json describes.2
  | dataCorrupted _ =>
      obtain ⟨rfl, _, _, unfit⟩ := describes
      exact unfit

theorem blames_unfit (error : DecodingError) (codingPath : List Key) (schema : Schema) (json : Json)
    (blames : error.Blames codingPath schema json) : ¬ Fits schema json := by
  intro fits
  obtain ⟨field, member, taken, rest, keys, place, split, takes, found, _, describes⟩ := blames
  have conforms := fits field member
  rw [split] at conforms
  exact described_nonconforming error rest field.2 place describes
    (conforms_along taken rest field.2 keys json place takes found conforms)

theorem blames_sublist (error : DecodingError) (codingPath : List Key) (fewer schema : Schema) (json : Json)
    (inside : fewer ⊆ schema) (blames : error.Blames codingPath fewer json) : error.Blames codingPath schema json := by
  obtain ⟨field, member, rest⟩ := blames
  exact ⟨field, inside member, rest⟩

theorem blames_here (error : DecodingError) (codingPath : List Key) (schema : Schema) (json : Json)
    (field : List Pattern × Kind) (member : field ∈ schema) (path : error.codingPath = codingPath)
    (describes : error.Describes field.1 field.2 json) : error.Blames codingPath schema json :=
  ⟨field, member, [], field.1, [], json, rfl, .nil, rfl, by rw [path, List.append_nil], describes⟩

theorem blames_under (error : DecodingError) (codingPath : List Key) (schema : Schema) (json child : Json)
    (pattern : Pattern) (key : Key) (takes : pattern.Takes key) (step : child? json key = some child)
    (blames : error.Blames (codingPath ++ [key]) schema child) :
    error.Blames codingPath (under pattern schema) json := by
  obtain ⟨field, member, taken, rest, keys, place, split, along, found, path, describes⟩ := blames
  refine ⟨(pattern :: field.1, field.2), List.mem_map_of_mem member, pattern :: taken, rest, key :: keys, place,
    by rw [split]; rfl, .cons takes along, ?_, ?_, describes⟩
  · rw [at_found json child key keys step, found]
  · rw [path, List.append_assoc]
    rfl

theorem scalar_error (read : Json → Option Value) (unfit : List Key → DecodingError) (codingPath : List Key)
    (json : Json) (error : DecodingError) (failed : scalar read unfit codingPath json = .error error) :
    read json = none ∧ ((json = .null ∧ error = .valueNotFound codingPath) ∨
      (∃ value, json = .number value ∧ error = unfit codingPath) ∨
      (json ≠ .null ∧ error = .typeMismatch codingPath)) := by
  unfold scalar at failed
  split at failed
  · cases failed
  · rename_i unread
    refine ⟨unread, ?_⟩
    split at failed
    · cases failed
      exact Or.inl ⟨rfl, rfl⟩
    · cases failed
      exact Or.inr (Or.inl ⟨_, rfl, rfl⟩)
    · rename_i notNull _
      cases failed
      exact Or.inr (Or.inr ⟨notNull, rfl⟩)

theorem blaming_scalar (read : Json → Option Value) (unfit : List Key → DecodingError) (kind : Kind)
    (same : ∀ json, kind.Holds json ↔ (read json).isSome)
    (numbers : ∀ codingPath value, read (.number value) = none →
      (unfit codingPath).Blames codingPath (only kind) (.number value)) :
    Blaming (scalar read unfit) (only kind) := by
  intro codingPath json error failed
  have unheld : read json = none → ¬ kind.Holds json := by
    intro unread holds
    rw [same, unread] at holds
    cases holds
  rcases scalar_error read unfit codingPath json error failed with
    ⟨_, ⟨rfl, rfl⟩ | ⟨value, rfl, rfl⟩ | ⟨notNull, rfl⟩⟩
  · exact blames_here _ _ _ _ _ List.mem_cons_self rfl rfl
  · rename_i unread
    exact numbers codingPath value unread
  · rename_i unread
    exact blames_here _ _ _ _ _ List.mem_cons_self rfl ⟨notNull, unheld unread⟩

theorem blaming_string : Blaming string (only .string) := by
  refine blaming_scalar _ _ _ (fun _ => Iff.rfl) ?_
  intro codingPath value _
  exact blames_here _ _ _ _ _ List.mem_cons_self rfl ⟨Json.noConfusion, Bool.false_ne_true⟩

theorem blaming_number (read : Json → Option Value) (kind : Kind) (numeric : kind ≠ .string)
    (same : ∀ json, kind.Holds json ↔ (read json).isSome) : Blaming (scalar read .dataCorrupted) (only kind) := by
  refine blaming_scalar _ _ _ same ?_
  intro codingPath value unread
  have unfit : ¬ kind.Holds (.number value) := by simp [same, unread]
  exact blames_here _ _ _ _ _ List.mem_cons_self rfl ⟨rfl, numeric, ⟨value, rfl⟩, unfit⟩

theorem blaming_double : Blaming double (only .double) := blaming_number asDouble .double (by decide) fun _ => Iff.rfl

theorem blaming_int : Blaming int (only .int) := blaming_number asInt .int (by decide) fun _ => Iff.rfl

theorem blaming_member (name : String) (decoder : Decoder Value) (schema : Schema) (blaming : Blaming decoder schema)
    (codingPath : List Key) (json value : Json) (error : DecodingError) (found : child? json (.name name) = some value)
    (failed : decoder (codingPath ++ [.name name]) value = .error error) :
    error.Blames codingPath (under (.name name) schema) json :=
  blames_under error codingPath schema json value (.name name) (.name name) rfl found (blaming _ value error failed)

theorem blames_container (name : String) (schema : Schema) (some : schema ≠ []) (codingPath : List Key) (json : Json)
    (notObject : ∀ members, json ≠ .object members) (error : DecodingError)
    (reported : (json = .null ∧ error = .valueNotFound codingPath) ∨ (json ≠ .null ∧ error = .typeMismatch codingPath)) :
    error.Blames codingPath (under (.name name) schema) json := by
  obtain ⟨field, member⟩ := List.exists_mem_of_ne_nil schema some
  have declared : (.name name :: field.1, field.2) ∈ under (.name name) schema := List.mem_map_of_mem member
  rcases reported with ⟨null, rfl⟩ | ⟨notNull, rfl⟩
  · exact blames_here _ _ _ _ _ declared rfl null
  · exact blames_here _ _ _ _ _ declared rfl ⟨notNull, notObject⟩

theorem blaming_required (name : String) (decoder : Decoder Value) (schema : Schema) (some : schema ≠ [])
    (blaming : Blaming decoder schema) : Blaming (required name decoder) (under (.name name) schema) := by
  intro codingPath json error failed
  cases json with
  | object members =>
      cases found : members.lookup name with
      | some value =>
          simp only [required, found] at failed
          exact blaming_member name decoder schema blaming codingPath _ value error found failed
      | none =>
          simp only [required, found] at failed
          cases failed
          obtain ⟨field, member⟩ := List.exists_mem_of_ne_nil schema some
          exact blames_here _ _ _ _ (.name name :: field.1, field.2) (List.mem_map_of_mem member) rfl
            ⟨rfl, ⟨members, rfl⟩, found⟩
  | null =>
      cases failed
      refine blames_container name schema some codingPath _ ?_ _ (Or.inl ⟨rfl, rfl⟩)
      intro members impossible
      cases impossible
  | _ =>
      cases failed
      refine blames_container name schema some codingPath _ ?_ _ (Or.inr ⟨?_, rfl⟩)
      · intro members impossible
        cases impossible
      · intro impossible
        cases impossible

theorem blaming_optional (name : String) (decoder : Decoder Value) (schema : Schema) (some : schema ≠ [])
    (blaming : Blaming decoder schema) : Blaming (optional name decoder) (under (.name name) schema) := by
  intro codingPath json error failed
  cases json with
  | object members =>
      simp only [optional] at failed
      split at failed
      · cases failed
      · cases failed
      · rename_i value _ found
        cases decoded : decoder (codingPath ++ [.name name]) value with
        | ok result => rw [decoded] at failed; cases failed
        | error inner =>
            rw [decoded] at failed
            cases failed
            exact blaming_member name decoder schema blaming codingPath _ value _ found decoded
  | null =>
      cases failed
      refine blames_container name schema some codingPath _ ?_ _ (Or.inl ⟨rfl, rfl⟩)
      intro members impossible
      cases impossible
  | _ =>
      cases failed
      refine blames_container name schema some codingPath _ ?_ _ (Or.inr ⟨?_, rfl⟩)
      · intro members impossible
        cases impossible
      · intro impossible
        cases impossible

theorem bind_error (first : Except DecodingError Value) (rest : Value → Except DecodingError Next)
    (error : DecodingError) (failed : (first >>= rest) = .error error) :
    first = .error error ∨ ∃ value, first = .ok value ∧ rest value = .error error := by
  cases first with
  | error other =>
      cases failed
      exact Or.inl rfl
  | ok value => exact Or.inr ⟨value, rfl, failed⟩

theorem blaming_items (decoder : Decoder Value) (schema : Schema) (blaming : Blaming decoder schema)
    (codingPath : List Key) (first : ℕ) (items : List Json) (error : DecodingError)
    (failed : itemsFrom decoder codingPath first items = .error error) :
    ∃ position item, items[position]? = some item ∧
      error.Blames (codingPath ++ [.index (first + position)]) schema item := by
  induction items generalizing first with
  | nil => cases failed
  | cons item rest ih =>
      rw [itemsFrom] at failed
      rcases bind_error _ _ _ failed with here | ⟨value, _, later⟩
      · exact ⟨0, item, rfl, blaming _ item error here⟩
      · rcases bind_error _ _ _ later with there | ⟨others, _, built⟩
        · obtain ⟨position, other, found, blames⟩ := ih (first + 1) there
          refine ⟨position + 1, other, found, ?_⟩
          rwa [Nat.add_right_comm, Nat.add_assoc] at blames
        · cases built

theorem blaming_array (decoder : Decoder Value) (schema : Schema) (some : schema ≠ [])
    (blaming : Blaming decoder schema) : Blaming (array decoder) (under .each schema) := by
  intro codingPath json error failed
  obtain ⟨field, member⟩ := List.exists_mem_of_ne_nil schema some
  have declared : (.each :: field.1, field.2) ∈ under .each schema := List.mem_map_of_mem member
  cases json with
  | array items =>
      obtain ⟨position, item, found, blames⟩ := blaming_items decoder schema blaming codingPath 0 items error failed
      rw [Nat.zero_add] at blames
      exact blames_under error codingPath schema _ item .each (.index position) ⟨position, rfl⟩ found blames
  | null =>
      cases failed
      exact blames_here _ _ _ _ _ declared rfl rfl
  | _ =>
      cases failed
      refine blames_here _ _ _ _ _ declared rfl ⟨?_, ?_⟩
      · intro impossible
        cases impossible
      · intro items impossible
        cases impossible

theorem blaming_nothing (value : Value) : Blaming (fun _ _ => .ok value) [] := by
  intro codingPath json error failed
  cases failed

theorem blaming_then (first : Decoder Value) (rest : Value → Decoder Next) (schema later : Schema)
    (front : Blaming first schema) (back : ∀ value, Blaming (rest value) later) :
    Blaming (fun codingPath json => first codingPath json >>= fun value => rest value codingPath json)
      (schema ++ later) := by
  intro codingPath json error failed
  rcases bind_error _ _ _ failed with here | ⟨value, _, there⟩
  · exact blames_sublist error codingPath schema _ json (List.subset_append_left _ _) (front _ _ _ here)
  · exact blames_sublist error codingPath later _ json (List.subset_append_right _ _) (back value _ _ _ there)

theorem blaming_property (name : String) (decoder : Decoder Value) (rest : Value → Decoder Next) (schema : Schema)
    (later : List (String × Schema)) (some : schema ≠ []) (front : Blaming decoder schema)
    (back : ∀ value, Blaming (rest value) (properties later)) :
    Blaming (fun codingPath json => required name decoder codingPath json >>= fun value => rest value codingPath json)
      (properties ((name, schema) :: later)) :=
  blaming_then (required name decoder) rest (under (.name name) schema) (properties later)
    (blaming_required name decoder schema some front) back

end Pets.JSONDecoder
