import Pets.Library.JSONDecoder
import Pets.WhatFlower.ViewController

set_option autoImplicit false

namespace Pets.WhatFlower

open Pets.Transition

variable {JSON : Type} (foundation : Foundation JSON)

def Classified (history : List Event) (asked : Photo × String) : Prop :=
  ∃ picked rest, .picked (some picked) ∈ history ∧ picked.photo = asked.1 ∧
    picked.results = some (some (asked.2 :: rest))

def Answered (history : List Event) (asked : List (Photo × String)) (request : ℕ) (response : Photo × Page) : Prop :=
  ∃ value identifier, .response request value ∈ history ∧ asked[request]? = some (response.1, identifier) ∧
    response.2 = page foundation value

def Shows (controller : ViewController) : Prop :=
  match controller.requests.shown with
  | none => controller.screen = none ∧ controller.openURL = wiki
  | some shown =>
      controller.screen = showPage foundation shown.2.1 shown.2.2 ∧ controller.openURL = shown.2.2.pageURL

structure Kept (history : List Event) (controller : ViewController) : Prop where
  sound : controller.requests.Sound
  counted : controller.requests.issued = controller.asked.length
  classified : ∀ asked ∈ controller.asked, Classified history asked
  answered : controller.requests.Traced (Answered foundation history controller.asked)
  shows : Shows foundation controller

theorem launched_kept : Kept foundation [] launched := by
  refine ⟨Session.start_sound, rfl, ?_, Session.start_traced _, rfl, rfl⟩
  intro asked impossible
  cases impossible

theorem answered_later (history more : List Event) (asked others : List (Photo × String)) (request : ℕ)
    (response : Photo × Page) (answered : Answered foundation history asked request response) :
    Answered foundation (history ++ more) (asked ++ others) request response := by
  obtain ⟨value, identifier, completed, found, same⟩ := answered
  refine ⟨value, identifier, List.mem_append_left _ completed, ?_, same⟩
  rw [List.getElem?_append_left (List.getElem?_eq_some_iff.mp found).1, found]

theorem classified_later (history more : List Event) (asked : Photo × String) (classified : Classified history asked) :
    Classified (history ++ more) asked := by
  obtain ⟨picked, rest, chosen, same⟩ := classified
  exact ⟨picked, rest, List.mem_append_left _ chosen, same⟩

theorem kept_classified (history : List Event) (controller : ViewController) (event : Event)
    (kept : Kept foundation history controller) :
    ∀ asked ∈ controller.asked, Classified (history ++ [event]) asked :=
  fun asked member => classified_later history [event] asked (kept.classified asked member)

theorem kept_answered (history : List Event) (controller : ViewController) (event : Event)
    (kept : Kept foundation history controller) :
    controller.requests.Traced (Answered foundation (history ++ [event]) controller.asked) := by
  refine Session.traced_mono _ _ ?_ _ kept.answered
  intro request response answered
  simpa using answered_later foundation history [event] controller.asked [] request response answered

theorem picked_kept (history : List Event) (controller next : ViewController) (info : Option Picked)
    (kept : Kept foundation history controller) (moved : didFinishPicking controller info = some next) :
    Kept foundation (history ++ [.picked info]) next := by
  have earlier := kept_classified foundation history controller (.picked info) kept
  rcases picking_cases controller next info moved with rfl | ⟨picked, identifier, rest, rfl, results, rfl⟩
  · exact ⟨kept.sound, kept.counted, earlier, kept_answered foundation history _ _ kept, kept.shows⟩
  · refine ⟨Session.moves_sound _ _ _ _ kept.sound .issues, ?_, ?_, ?_, kept.shows⟩
    · rw [List.length_append]
      exact congrArg Nat.succ kept.counted
    · intro asked member
      rcases List.mem_append.mp member with before | now
      · exact earlier asked before
      · rw [List.mem_singleton.mp now]
        exact ⟨picked, rest, List.mem_append_right _ (List.mem_singleton_self _), rfl, results⟩
    · exact Session.traced_mono _ _ (answered_later foundation history _ controller.asked _) _ kept.answered

theorem responded_kept (history : List Event) (controller : ViewController) (request : ℕ) (value : Option Data)
    (kept : Kept foundation history controller) :
    Kept foundation (history ++ [.response request value]) (responded foundation controller request value) := by
  have earlier := kept_classified foundation history controller (.response request value) kept
  have before := kept_answered foundation history controller (.response request value) kept
  by_cases outstanding : controller.requests.Outstanding request
  · rw [responded, if_pos outstanding]
    refine ⟨Session.moves_sound _ _ _ _ kept.sound (.answers request _ outstanding), ?_, earlier, ?_, ?_⟩
    · exact (Session.answer_issued ..).trans kept.counted
    · refine Session.answer_traced _ _ request _ ?_ before
      intro written given
      obtain ⟨asked, found, rfl⟩ := Option.map_eq_some_iff.mp given
      exact ⟨value, asked.2, List.mem_append_right _ (List.mem_singleton_self _), found, rfl⟩
    · rw [Shows, Session.answer_shown]
      exact kept.shows
  · rw [responded, if_neg outstanding]
    exact ⟨kept.sound, kept.counted, earlier, before, kept.shows⟩

theorem updated_kept (history : List Event) (controller next : ViewController)
    (kept : Kept foundation history controller) (moved : performUpdate foundation controller = some next) :
    Kept foundation (history ++ [.turn]) next := by
  have earlier := kept_classified foundation history controller .turn kept
  have before := kept_answered foundation history controller .turn kept
  obtain ⟨requests, turned, ⟨nothing, rfl⟩ | ⟨shown, screen, isShown, rendered, rfl⟩⟩ :=
    updating_cases foundation controller next moved
  · have sound := Session.moves_sound _ _ _ _ kept.sound (.turns requests turned)
    have same : controller.requests.shown = none := by
      rcases Session.turn_cases controller.requests requests turned with ⟨_, rfl⟩ | ⟨update, rest, _, rfl⟩
      · exact nothing
      · cases nothing
    have shows := kept.shows
    rw [Shows, same] at shows
    refine ⟨sound, (Session.turn_issued _ _ turned).trans kept.counted, earlier,
      Session.turn_traced _ _ _ before turned, ?_⟩
    rw [Shows, nothing]
    exact shows
  · have sound := Session.moves_sound _ _ _ _ kept.sound (.turns requests turned)
    refine ⟨sound, (Session.turn_issued _ _ turned).trans kept.counted, earlier,
      Session.turn_traced _ _ _ before turned, ?_⟩
    rw [Shows, isShown]
    exact ⟨rendered.symm, rfl⟩

theorem step_kept (history : List Event) (controller : ViewController) (event : Event) (next : ViewController)
    (kept : Kept foundation history controller) (moved : step foundation controller event = some next) :
    Kept foundation (history ++ [event]) next := by
  cases event with
  | picked info => exact picked_kept foundation history controller next info kept moved
  | response request value =>
      cases moved
      exact responded_kept foundation history controller request value kept
  | turn => exact updated_kept foundation history controller next kept moved
  | goPressed =>
      cases moved
      obtain ⟨opened, same⟩ := go_pressed_only_opens foundation controller
      rw [same]
      exact ⟨kept.sound, kept.counted, kept_classified foundation history controller .goPressed kept,
        kept_answered foundation history controller .goPressed kept, kept.shows⟩

theorem run_kept (events : List Event) (controller : ViewController)
    (ran : run (step foundation) launched events = some controller) : Kept foundation events controller :=
  run_invariant (step foundation) launched (Kept foundation) (launched_kept foundation) (step_kept foundation) events
    controller ran

-- In every run everything on the screen, and the address behind the button, is of
-- one answer, and the photo is the one whose first label that answer was asked for.
theorem screen_of_one_answer (events : List Event) (controller : ViewController)
    (ran : run (step foundation) launched events = some controller) :
    (controller.screen = none ∧ controller.openURL = wiki) ∨
      ∃ request value picked identifier rest, .response request value ∈ events ∧ .picked (some picked) ∈ events ∧
        picked.results = some (some (identifier :: rest)) ∧
        controller.asked[request]? = some (picked.photo, identifier) ∧
        controller.screen = showPage foundation picked.photo (page foundation value) ∧
        controller.openURL = (page foundation value).pageURL := by
  have kept := run_kept foundation events controller ran
  have shows := kept.shows
  rw [Shows] at shows
  cases isShown : controller.requests.shown with
  | none =>
      rw [isShown] at shows
      exact Or.inl shows
  | some shown =>
      rw [isShown] at shows
      obtain ⟨screen, address⟩ := shows
      obtain ⟨value, identifier, completed, found, same⟩ :=
        Session.traced_shown _ _ kept.sound kept.answered shown isShown
      obtain ⟨picked, rest, chosen, photo, results⟩ := kept.classified _ (List.mem_of_getElem? found)
      rw [same] at screen address
      refine Or.inr ⟨shown.1, value, picked, identifier, rest, completed, chosen, results, ?_, ?_, address⟩
      · rw [found, photo]
      · rw [photo]
        exact screen

def roseBody : Data :=
  ("\x7b\"query\":\x7b\"pageids\":[\"36796\"],\"pages\":\x7b\"36796\":\x7b\"title\":\"Rose\"," ++
    "\"extract\":\"A rose is a woody plant.\",\"fullurl\":\"https://en.wikipedia.org/wiki/Rose\"," ++
    "\"thumbnail\":\x7b\"source\":\"https://upload.wikimedia.org/rose.jpg\"\x7d\x7d\x7d\x7d\x7d").toUTF8.data.toList

def roseAnswer : JSONDecoder.Json :=
  .object [("query", .object [("pageids", .array [.string "36796"]),
    ("pages", .object [("36796", .object [("title", .string "Rose"), ("extract", .string "A rose is a woody plant."),
      ("fullurl", .string "https://en.wikipedia.org/wiki/Rose"),
      ("thumbnail", .object [("source", .string "https://upload.wikimedia.org/rose.jpg")])])])])]

def readRose (value : Option Data) : JSONDecoder.Json := if value = some roseBody then roseAnswer else .null

theorem read_rose : readRose (some roseBody) = roseAnswer := if_pos rfl

def roses : Foundation JSONDecoder.Json where
  json := readRose
  member := fun json name => (JSONDecoder.child? json (.name name)).getD .null
  element := fun json position => (JSONDecoder.child? json (.index position)).getD .null
  stringValue := fun json => (JSONDecoder.asString json).getD ""
  url := some
  characters := .scalars

def rosePicked : Picked := ⟨7, true, true, some (some ["rose"])⟩

def roseScreen : Screen := ⟨some "https://upload.wikimedia.org/rose.jpg", 7, "Rose", "A rose is a woody plant."⟩

theorem rose_page : page roses (some roseBody) =
    ⟨"https://upload.wikimedia.org/rose.jpg", "Rose", "A rose is a woody plant.", "https://en.wikipedia.org/wiki/Rose"⟩ := by
  have json : roses.json = readRose := rfl
  rw [page, json, read_rose]
  decide +kernel

def rosesTaken : List Event := [.picked (some rosePicked), .response 0 (some roseBody), .turn]

def roseAsked : ViewController := ⟨"rose", [(7, "rose")], Session.start.issue, none, wiki, []⟩

theorem rose_run : (run (step roses) launched rosesTaken).map ViewController.screen = some (some roseScreen) := by
  have picked : run (step roses) launched [.picked (some rosePicked)] = some roseAsked := by decide +kernel
  have answered : responded roses roseAsked 0 (some roseBody) =
      { roseAsked with requests := roseAsked.requests.answer 0 (some (7, page roses (some roseBody))) } := by
    rw [responded, if_pos (by decide)]
    rfl
  have split : rosesTaken = [.picked (some rosePicked)] ++ [.response 0 (some roseBody), .turn] := rfl
  rw [split, run_append, picked, Option.bind_some, run, step, answered, rose_page]
  decide +kernel

theorem rose_of_one_answer :
    ∃ request value picked identifier rest, .response request value ∈ rosesTaken ∧
      .picked (some picked) ∈ rosesTaken ∧ picked.results = some (some (identifier :: rest)) ∧
      showPage roses picked.photo (page roses value) = some roseScreen := by
  obtain ⟨controller, reached, screen⟩ := Option.map_eq_some_iff.mp rose_run
  rcases screen_of_one_answer roses rosesTaken controller reached with
    ⟨empty, _⟩ | ⟨request, value, picked, identifier, rest, responded, chosen, results, _, shown, _⟩
  · cases screen.symm.trans empty
  · exact ⟨request, value, picked, identifier, rest, responded, chosen, results, shown.symm.trans screen⟩

-- A photo that Core Image and Vision can do with: a completed request has a first label.
def Picked.Classified (picked : Picked) : Prop :=
  picked.ciimage = true ∧ picked.model = true ∧ picked.results ≠ some none ∧ picked.results ≠ some (some [])

theorem detect_survives_iff (controller : ViewController) (picked : Picked) :
    (didFinishPicking controller (some picked)).isSome ↔ picked.Classified := by
  rw [didFinishPicking, detect, Picked.Classified]
  cases picked.ciimage with
  | false => simp
  | true =>
      cases picked.model with
      | false => simp
      | true =>
          cases picked.results with
          | none => simp
          | some results =>
              cases results with
              | none => simp
              | some labels => cases labels <;> simp

def Event.survivable : Event → Prop
  | .picked (some taken) => taken.Classified
  | _ => True

theorem step_survives_iff (controller : ViewController) (event : Event) :
    (step foundation controller event).isSome ↔ event.survivable := by
  cases event with
  | picked info =>
      cases info with
      | none => exact iff_of_true rfl trivial
      | some picked => exact detect_survives_iff controller picked
  | response request value => exact iff_of_true rfl trivial
  | turn =>
      obtain ⟨next, moved⟩ := turn_survives foundation controller .turn rfl
      exact iff_of_true (Option.isSome_iff_exists.mpr ⟨next, moved⟩) trivial
  | goPressed => exact iff_of_true rfl trivial

-- Only a photo can crash the app: no answer of Wikipedia can, whatever it holds, however
-- long its extract is and whenever it arrives.
theorem only_photos_crash (events : List Event) :
    (run (step foundation) launched events).isSome ↔ ∀ picked, .picked (some picked) ∈ events → picked.Classified := by
  rw [run_survives_events_iff (step foundation) Event.survivable (step_survives_iff foundation)]
  constructor
  · exact fun survivable picked member => survivable _ member
  · intro classified event member
    cases event with
    | picked info =>
        cases info with
        | none => trivial
        | some picked => exact classified picked member
    | response request value => trivial
    | turn => trivial
    | goPressed => trivial

end Pets.WhatFlower
