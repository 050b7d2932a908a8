import Pets.Library.CodingPath

set_option autoImplicit false

namespace Pets.H4X0RNews

open Pets.JSONDecoder

structure Post where
  objectID : String
  title : String
  points : ℤ
  url : Option String
deriving DecidableEq

def Post.id (post : Post) : String := post.objectID

structure Results where
  hits : List Post
deriving DecidableEq

-- The initialisers that Decodable synthesises: the stored properties in the
-- order of their declaration, up to the first that fails.
def Post.decode : Decoder Post := fun codingPath json => do
  let objectID ← required "objectID" string codingPath json
  let title ← required "title" string codingPath json
  let points ← required "points" int codingPath json
  let url ← optional "url" string codingPath json
  return { objectID, title, points, url }

def Results.decode : Decoder Results := fun codingPath json => do
  let hits ← required "hits" (array Post.decode) codingPath json
  return { hits }

def Post.fields : Schema :=
  properties [("objectID", only .string), ("title", only .string), ("points", only .int), ("url", only .string)]

def Results.fields : Schema := properties [("hits", under .each Post.fields)]

structure Hit (item : Json) (post : Post) : Prop where
  objectID : (child? item (.name "objectID")).bind asString = some post.objectID
  title : (child? item (.name "title")).bind asString = some post.title
  points : (child? item (.name "points")).bind asInt = some post.points
  url : (post.url = none ∧ ∀ value, child? item (.name "url") = some value → value = .null) ∨
    ∃ text, post.url = some text ∧ child? item (.name "url") = some (.string text)

def Hits (json : Json) (results : Results) : Prop :=
  ∃ items, child? json (.name "hits") = some (.array items) ∧ List.Forall₂ Hit items results.hits

theorem child_of_object (json value : Json) (name : String) (found : child? json (.name name) = some value) :
    ∃ members, json = .object members := by
  cases json with
  | object members => exact ⟨members, rfl⟩
  | _ => cases found

theorem optional_string (name : String) (codingPath : List Key) (json : Json) (value : Option String)
    (isObject : ∃ members, json = .object members) : optional name string codingPath json = .ok value ↔
      (value = none ∧ ∀ member, child? json (.name name) = some member → member = .null) ∨
        ∃ text, value = some text ∧ child? json (.name name) = some (.string text) := by
  rw [optional_ok, and_iff_right isObject]
  refine or_congr Iff.rfl ?_
  constructor
  · intro ⟨member, text, found, _, decoded, same⟩
    have read := (scalar_ok asString _ _ member text).mp decoded
    cases member with
    | string other =>
        cases read
        exact ⟨text, same, found⟩
    | _ => cases read
  · intro ⟨text, same, found⟩
    refine ⟨.string text, text, found, ?_, rfl, same⟩
    intro impossible
    cases impossible

theorem post_reads : Reads Post.decode Hit := by
  intro codingPath item post
  simp only [Post.decode, bind_ok, required_read, string, int]
  constructor
  · intro ⟨objectID, first, title, second, points, third, url, last, whole⟩
    cases whole
    obtain ⟨value, found, _⟩ := Option.bind_eq_some_iff.mp first
    have isObject := child_of_object item value _ found
    exact ⟨first, second, third, (optional_string "url" codingPath item url isObject).mp last⟩
  · intro hit
    obtain ⟨value, found, _⟩ := Option.bind_eq_some_iff.mp hit.objectID
    have isObject := child_of_object item value _ found
    exact ⟨post.objectID, hit.objectID, post.title, hit.title, post.points, hit.points, post.url,
      (optional_string "url" codingPath item post.url isObject).mpr hit.url, rfl⟩

theorem results_reads : Reads Results.decode Hits := by
  intro codingPath json results
  simp only [Results.decode, bind_ok, required_ok, reads_array Post.decode Hit post_reads _ _ _]
  constructor
  · intro ⟨hits, ⟨member, found, items, same, each⟩, whole⟩
    cases whole
    cases same
    exact ⟨items, found, each⟩
  · intro ⟨items, found, each⟩
    exact ⟨results.hits, ⟨_, found, items, rfl, each⟩, rfl⟩

theorem post_blaming : Blaming Post.decode Post.fields := by
  refine blaming_property "objectID" string _ _ _ (by decide) blaming_string fun _ => ?_
  refine blaming_property "title" string _ _ _ (by decide) blaming_string fun _ => ?_
  refine blaming_property "points" int _ _ _ (by decide) blaming_int fun _ => ?_
  refine blaming_then (optional "url" string) _ (under (.name "url") (only .string)) (properties [])
    (blaming_optional "url" string _ (by decide) blaming_string) fun _ => ?_
  exact blaming_nothing _

theorem results_blaming : Blaming Results.decode Results.fields := by
  refine blaming_property "hits" (array Post.decode) _ _ _ (by decide)
    (blaming_array _ _ (by decide) post_blaming) fun _ => ?_
  exact blaming_nothing _

end Pets.H4X0RNews
