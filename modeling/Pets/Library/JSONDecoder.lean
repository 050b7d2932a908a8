import Pets.Library.Binary64

set_option autoImplicit false

namespace Pets.JSONDecoder

-- The tree of a JSON text. Of members with one name the first is the one that is read.
inductive Json where
  | null
  | bool (value : Bool)
  | number (value : ℚ)
  | string (text : String)
  | array (items : List Json)
  | object (members : List (String × Json))

inductive Key where
  | name (name : String)
  | index (position : ℕ)
deriving DecidableEq

def child? : Json → Key → Option Json
  | .object members, .name name => members.lookup name
  | .array items, .index position => items[position]?
  | _, _ => none

def at? (json : Json) : List Key → Option Json
  | [] => some json
  | key :: rest => (child? json key).bind (fun child => at? child rest)

def asString : Json → Option String
  | .string text => some text
  | _ => none

-- A number reads as the Double nearest to it, unless it is too large for any.
def asDouble : Json → Option ℚ
  | .number value => (Binary64.round value).finite?
  | _ => none

def asInt : Json → Option ℤ
  | .number value => if value.den = 1 ∧ -2 ^ 63 ≤ value.num ∧ value.num < 2 ^ 63 then some value.num else none
  | _ => none

inductive DecodingError where
  | keyNotFound (key : String) (codingPath : List Key)
  | valueNotFound (codingPath : List Key)
  | typeMismatch (codingPath : List Key)
  | dataCorrupted (codingPath : List Key)
deriving DecidableEq

abbrev Decoder (Value : Type) := List Key → Json → Except DecodingError Value

variable {Value Next : Type}

def scalar (read : Json → Option Value) (unfit : List Key → DecodingError) : Decoder Value := fun codingPath json =>
  match read json with
  | some value => .ok value
  | none =>
      match json with
      | .null => .error (.valueNotFound codingPath)
      | .number _ => .error (unfit codingPath)
      | _ => .error (.typeMismatch codingPath)

def string : Decoder String := scalar asString .typeMismatch

def double : Decoder ℚ := scalar asDouble .dataCorrupted

def int : Decoder ℤ := scalar asInt .dataCorrupted

def required (name : String) (decoder : Decoder Value) : Decoder Value := fun codingPath json =>
  match json with
  | .object members =>
      match members.lookup name with
      | some value => decoder (codingPath ++ [.name name]) value
      | none => .error (.keyNotFound name codingPath)
  | .null => .error (.valueNotFound codingPath)
  | _ => .error (.typeMismatch codingPath)

def itemsFrom (decoder : Decoder Value) (codingPath : List Key) : ℕ → List Json → Except DecodingError (List Value)
  | _, [] => .ok []
  | position, item :: rest => do
      let first ← decoder (codingPath ++ [.index position]) item
      let others ← itemsFrom decoder codingPath (position + 1) rest
      return first :: others

def array (decoder : Decoder Value) : Decoder (List Value) := fun codingPath json =>
  match json with
  | .array items => itemsFrom decoder codingPath 0 items
  | .null => .error (.valueNotFound codingPath)
  | _ => .error (.typeMismatch codingPath)

-- A schema lists the scalars of a type by where they are: under a name, or in each item of an array.
inductive Pattern where
  | name (name : String)
  | each
deriving DecidableEq

inductive Kind where
  | string
  | double
  | int
deriving DecidableEq

def Kind.Holds : Kind → Json → Prop
  | .string, json => (asString json).isSome
  | .double, json => (asDouble json).isSome
  | .int, json => (asInt json).isSome

def Conforms : List Pattern → Kind → Json → Prop
  | [], kind, json => kind.Holds json
  | .name name :: rest, kind, json => ∃ value, child? json (.name name) = some value ∧ Conforms rest kind value
  | .each :: rest, kind, json => ∃ items, json = .array items ∧ ∀ item ∈ items, Conforms rest kind item

abbrev Schema := List (List Pattern × Kind)

def Fits (schema : Schema) (json : Json) : Prop := ∀ field ∈ schema, Conforms field.1 field.2 json

def under (pattern : Pattern) (schema : Schema) : Schema := schema.map fun field => (pattern :: field.1, field.2)

def only (kind : Kind) : Schema := [([], kind)]

def properties (list : List (String × Schema)) : Schema := list.flatMap fun property => under (.name property.1) property.2

def Accepts (decoder : Decoder Value) (schema : Schema) : Prop :=
  ∀ codingPath json, (∃ value, decoder codingPath json = .ok value) ↔ Fits schema json

theorem at_single (json : Json) (key : Key) : at? json [key] = child? json key := by
  rw [at?]
  cases child? json key <;> rfl

theorem at_found (json child : Json) (key : Key) (rest : List Key) (found : child? json key = some child) :
    at? json (key :: rest) = at? child rest := by
  rw [at?, found, Option.bind_some]

theorem at_missing (json : Json) (key : Key) (rest : List Key) (missing : child? json key = none) :
    at? json (key :: rest) = none := by
  rw [at?, missing, Option.bind_none]

theorem bind_ok (first : Except DecodingError Value) (rest : Value → Except DecodingError Next) (next : Next) :
    (first >>= rest) = .ok next ↔ ∃ value, first = .ok value ∧ rest value = .ok next := by
  cases first with
  | error error =>
      refine ⟨fun failed => (by cases failed), ?_⟩
      intro ⟨value, failed, _⟩
      cases failed
  | ok value =>
      refine ⟨fun succeeded => ⟨value, rfl, succeeded⟩, ?_⟩
      intro ⟨other, same, succeeded⟩
      cases same
      exact succeeded

theorem scalar_ok (read : Json → Option Value) (unfit : List Key → DecodingError) (codingPath : List Key) (json : Json)
    (value : Value) : scalar read unfit codingPath json = .ok value ↔ read json = some value := by
  unfold scalar
  split
  · rename_i other found
    rw [found, Except.ok.injEq, Option.some.injEq]
  · rename_i missing
    rw [missing]
    refine iff_of_false ?_ (Option.some_ne_none value).symm
    split <;> exact fun failed => nomatch failed

theorem required_ok (name : String) (decoder : Decoder Value) (codingPath : List Key) (json : Json) (value : Value) :
    required name decoder codingPath json = .ok value ↔
      ∃ member, child? json (.name name) = some member ∧ decoder (codingPath ++ [.name name]) member = .ok value := by
  cases json with
  | object members => cases found : members.lookup name <;> simp [required, child?, found]
  | null => simp [required, child?]
  | bool flag => simp [required, child?]
  | number number => simp [required, child?]
  | string text => simp [required, child?]
  | array items => simp [required, child?]

theorem required_read (name : String) (read : Json → Option Value) (unfit : List Key → DecodingError)
    (codingPath : List Key) (json : Json) (value : Value) :
    required name (scalar read unfit) codingPath json = .ok value ↔ (child? json (.name name)).bind read = some value := by
  simp only [required_ok, scalar_ok, Option.bind_eq_some_iff]

theorem items_from_ok (decoder : Decoder Value) (codingPath : List Key) (first : ℕ) (items : List Json)
    (values : List Value) (decoded : itemsFrom decoder codingPath first items = .ok values) (position : ℕ) :
    (items[position]? = none ∧ values[position]? = none) ∨
      ∃ item value, items[position]? = some item ∧ values[position]? = some value ∧
        decoder (codingPath ++ [.index (first + position)]) item = .ok value := by
  induction items generalizing first values position with
  | nil =>
      cases decoded
      exact Or.inl ⟨rfl, rfl⟩
  | cons item rest ih =>
      simp only [itemsFrom, bind_ok] at decoded
      obtain ⟨value, head, others, tail, whole⟩ := decoded
      cases whole
      cases position with
      | zero => exact Or.inr ⟨item, value, rfl, rfl, head⟩
      | succ position =>
          have later := ih (first + 1) others tail position
          rwa [Nat.add_right_comm, Nat.add_assoc] at later

theorem array_ok (decoder : Decoder Value) (codingPath : List Key) (json : Json) (values : List Value)
    (decoded : array decoder codingPath json = .ok values) (position : ℕ) :
    (child? json (.index position) = none ∧ values[position]? = none) ∨
      ∃ item value, child? json (.index position) = some item ∧ values[position]? = some value ∧
        decoder (codingPath ++ [.index position]) item = .ok value := by
  cases json with
  | array items =>
      have read := items_from_ok decoder codingPath 0 items values decoded position
      rwa [Nat.zero_add] at read
  | null => cases decoded
  | bool flag => cases decoded
  | number number => cases decoded
  | string text => cases decoded
  | object members => cases decoded

theorem fits_append (first second : Schema) (json : Json) :
    Fits (first ++ second) json ↔ Fits first json ∧ Fits second json := by
  simp only [Fits, List.forall_mem_append]

theorem fits_name (name : String) (schema : Schema) (some : schema ≠ []) (json : Json) :
    Fits (under (.name name) schema) json ↔ ∃ value, child? json (.name name) = .some value ∧ Fits schema value := by
  simp only [Fits, under, List.forall_mem_map, Conforms]
  constructor
  · intro fits
    obtain ⟨field, member⟩ := List.exists_mem_of_ne_nil schema some
    obtain ⟨value, found, _⟩ := fits field member
    refine ⟨value, found, ?_⟩
    intro other inSchema
    obtain ⟨value', found', conforms⟩ := fits other inSchema
    cases found.symm.trans found'
    exact conforms
  · intro ⟨value, found, fits⟩ field member
    exact ⟨value, found, fits field member⟩

theorem fits_each (schema : Schema) (some : schema ≠ []) (json : Json) :
    Fits (under .each schema) json ↔ ∃ items, json = .array items ∧ ∀ item ∈ items, Fits schema item := by
  simp only [Fits, under, List.forall_mem_map, Conforms]
  constructor
  · intro fits
    obtain ⟨field, member⟩ := List.exists_mem_of_ne_nil schema some
    obtain ⟨items, same, _⟩ := fits field member
    refine ⟨items, same, ?_⟩
    intro item inItems other inSchema
    obtain ⟨items', same', conforms⟩ := fits other inSchema
    cases same.symm.trans same'
    exact conforms item inItems
  · intro ⟨items, same, fits⟩ field member
    exact ⟨items, same, fun item inItems => fits item inItems field member⟩

theorem fits_undeclared (schema : Schema) (name : String) (value : Json) (members : List (String × Json))
    (undeclared : ∀ field ∈ schema, field.1.head? ≠ some (.name name)) :
    Fits schema (.object ((name, value) :: members)) ↔ Fits schema (.object members) := by
  refine forall₂_congr ?_
  intro field member
  obtain ⟨pattern, kind⟩ := field
  cases pattern with
  | nil => cases kind <;> rfl
  | cons first rest =>
      cases first with
      | each => simp [Conforms]
      | name other =>
          have differs : (other == name) = false := by
            rw [beq_eq_false_iff_ne]
            exact fun same => undeclared _ member (by rw [same]; rfl)
          simp only [Conforms, child?, List.lookup_cons, differs]

theorem accepts_nothing (value : Value) : Accepts (fun _ _ => .ok value) [] :=
  fun _ _ => ⟨fun _ _ impossible => (List.not_mem_nil impossible).elim, fun _ => ⟨value, rfl⟩⟩

theorem accepts_then (first : Decoder Value) (rest : Value → Decoder Next) (schema later : Schema)
    (front : Accepts first schema) (back : ∀ value, Accepts (rest value) later) :
    Accepts (fun codingPath json => first codingPath json >>= fun value => rest value codingPath json)
      (schema ++ later) := by
  intro codingPath json
  rw [fits_append, ← front codingPath json]
  constructor
  · intro ⟨next, decoded⟩
    obtain ⟨value, succeeded, remaining⟩ := (bind_ok _ _ _).mp decoded
    exact ⟨⟨value, succeeded⟩, (back value codingPath json).mp ⟨next, remaining⟩⟩
  · intro ⟨⟨value, succeeded⟩, fits⟩
    obtain ⟨next, remaining⟩ := (back value codingPath json).mpr fits
    exact ⟨next, (bind_ok _ _ _).mpr ⟨value, succeeded, remaining⟩⟩

theorem accepts_scalar (read : Json → Option Value) (unfit : List Key → DecodingError) (kind : Kind)
    (same : ∀ json, kind.Holds json ↔ (read json).isSome) : Accepts (scalar read unfit) (only kind) := by
  intro codingPath json
  simp only [scalar_ok, Fits, only, List.mem_singleton, forall_eq, Conforms, same, Option.isSome_iff_exists]

theorem accepts_string : Accepts string (only .string) := accepts_scalar _ _ _ fun _ => Iff.rfl

theorem accepts_double : Accepts double (only .double) := accepts_scalar _ _ _ fun _ => Iff.rfl

theorem accepts_int : Accepts int (only .int) := accepts_scalar _ _ _ fun _ => Iff.rfl

theorem accepts_required (name : String) (decoder : Decoder Value) (schema : Schema) (some : schema ≠ [])
    (accepts : Accepts decoder schema) : Accepts (required name decoder) (under (.name name) schema) := by
  intro codingPath json
  rw [fits_name name schema some]
  constructor
  · intro ⟨value, decoded⟩
    obtain ⟨member, found, succeeded⟩ := (required_ok name decoder codingPath json value).mp decoded
    exact ⟨member, found, (accepts _ member).mp ⟨value, succeeded⟩⟩
  · intro ⟨member, found, fits⟩
    obtain ⟨value, succeeded⟩ := (accepts (codingPath ++ [.name name]) member).mpr fits
    exact ⟨value, (required_ok name decoder codingPath json value).mpr ⟨member, found, succeeded⟩⟩

theorem accepts_items (decoder : Decoder Value) (schema : Schema) (accepts : Accepts decoder schema)
    (codingPath : List Key) (first : ℕ) (items : List Json) :
    (∃ values, itemsFrom decoder codingPath first items = .ok values) ↔ ∀ item ∈ items, Fits schema item := by
  induction items generalizing first with
  | nil => exact ⟨fun _ item impossible => (List.not_mem_nil impossible).elim, fun _ => ⟨[], rfl⟩⟩
  | cons item rest ih =>
      rw [List.forall_mem_cons, ← ih (first + 1), ← accepts (codingPath ++ [.index first]) item]
      simp only [itemsFrom, bind_ok]
      constructor
      · intro ⟨values, value, head, others, tail, _⟩
        exact ⟨⟨value, head⟩, others, tail⟩
      · intro ⟨⟨value, head⟩, others, tail⟩
        exact ⟨value :: others, value, head, others, tail, rfl⟩

theorem accepts_array (decoder : Decoder Value) (schema : Schema) (some : schema ≠ [])
    (accepts : Accepts decoder schema) : Accepts (array decoder) (under .each schema) := by
  intro codingPath json
  rw [fits_each schema some]
  cases json with
  | array items => simpa [array] using accepts_items decoder schema accepts codingPath 0 items
  | null => simp [array]
  | bool flag => simp [array]
  | number number => simp [array]
  | string text => simp [array]
  | object members => simp [array]

theorem accepts_property (name : String) (decoder : Decoder Value) (rest : Value → Decoder Next) (schema : Schema)
    (later : List (String × Schema)) (some : schema ≠ []) (front : Accepts decoder schema)
    (back : ∀ value, Accepts (rest value) (properties later)) :
    Accepts (fun codingPath json => required name decoder codingPath json >>= fun value => rest value codingPath json)
      (properties ((name, schema) :: later)) :=
  accepts_then (required name decoder) rest (under (.name name) schema) (properties later)
    (accepts_required name decoder schema some front) back

def optional (name : String) (decoder : Decoder Value) : Decoder (Option Value) := fun codingPath json =>
  match json with
  | .object members =>
      match members.lookup name with
      | none => .ok none
      | some .null => .ok none
      | some value => (decoder (codingPath ++ [.name name]) value).map some
  | .null => .error (.valueNotFound codingPath)
  | _ => .error (.typeMismatch codingPath)

theorem map_some_ok (decoded : Except DecodingError Value) (value : Option Value) :
    decoded.map some = .ok value ↔ ∃ result, decoded = .ok result ∧ value = some result := by
  cases decoded with
  | error error =>
      refine iff_of_false ?_ ?_
      · intro impossible
        cases impossible
      · intro ⟨_, impossible, _⟩
        cases impossible
  | ok result => simp [Except.map, eq_comm]

theorem optional_ok (name : String) (decoder : Decoder Value) (codingPath : List Key) (json : Json)
    (value : Option Value) : optional name decoder codingPath json = .ok value ↔ (∃ members, json = .object members) ∧
      (value = none ∧ (∀ member, child? json (.name name) = some member → member = .null) ∨
        ∃ member result, child? json (.name name) = some member ∧ member ≠ .null ∧
          decoder (codingPath ++ [.name name]) member = .ok result ∧ value = some result) := by
  cases json with
  | object members =>
      cases found : members.lookup name with
      | none => simp [optional, child?, found, eq_comm]
      | some member =>
          cases member with
          | null => simp [optional, child?, found, eq_comm]
          | _ => simp [optional, child?, found, map_some_ok]
  | null => simp [optional]
  | bool flag => simp [optional]
  | number number => simp [optional]
  | string text => simp [optional]
  | array items => simp [optional]

-- What the decoder makes of a tree does not depend on where the tree stands.
def Reads (decoder : Decoder Value) (relation : Json → Value → Prop) : Prop :=
  ∀ codingPath json value, decoder codingPath json = .ok value ↔ relation json value

theorem reads_items (decoder : Decoder Value) (relation : Json → Value → Prop) (reads : Reads decoder relation)
    (codingPath : List Key) (first : ℕ) (items : List Json) (values : List Value) :
    itemsFrom decoder codingPath first items = .ok values ↔ List.Forall₂ relation items values := by
  induction items generalizing first values with
  | nil => simp [itemsFrom, eq_comm]
  | cons item rest ih =>
      simp only [itemsFrom, bind_ok, reads _ _ _, ih, List.forall₂_cons_left_iff]
      constructor
      · intro ⟨value, head, others, tail, whole⟩
        cases whole
        exact ⟨value, others, head, tail, rfl⟩
      · intro ⟨value, others, head, tail, whole⟩
        exact ⟨value, head, others, tail, by rw [whole]; rfl⟩

theorem reads_array (decoder : Decoder Value) (relation : Json → Value → Prop) (reads : Reads decoder relation) :
    Reads (array decoder) fun json values => ∃ items, json = .array items ∧ List.Forall₂ relation items values := by
  intro codingPath json values
  cases json with
  | array items => simp [array, reads_items decoder relation reads]
  | null => simp [array]
  | bool flag => simp [array]
  | number number => simp [array]
  | string text => simp [array]
  | object members => simp [array]

end Pets.JSONDecoder
