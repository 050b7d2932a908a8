import Pets.H4X0RNews.NetworkManager

set_option autoImplicit false

namespace Pets.H4X0RNews

open Pets.JSONDecoder Pets.Transition

def Fetched (foundation : Foundation) (history : List Event) (request : ℕ) : Prop :=
  ∃ before after manager, history = before ++ .onAppear :: after ∧ run (step foundation) launched before = some manager ∧
    manager.requests.issued = request ∧ (foundation.url frontPage).isSome

-- The posts are those that the answer to a request of the app brought, all its hits in their order.
def Brought (foundation : Foundation) (history : List Event) (request : ℕ) (posts : List Post) : Prop :=
  ∃ before data after json items, history = before ++ .complete request (.loaded data) :: after ∧
    Fetched foundation before request ∧ foundation.parse data = some json ∧
    child? json (.name "hits") = some (.array items) ∧ List.Forall₂ Hit items posts

theorem fetched_later (foundation : Foundation) (history : List Event) (event : Event) (request : ℕ)
    (fetched : Fetched foundation history request) : Fetched foundation (history ++ [event]) request := by
  obtain ⟨before, after, manager, rfl, made⟩ := fetched
  exact ⟨before, after ++ [event], manager, by simp, made⟩

theorem brought_later (foundation : Foundation) (history : List Event) (event : Event) (request : ℕ) (posts : List Post)
    (brought : Brought foundation history request posts) : Brought foundation (history ++ [event]) request posts := by
  obtain ⟨before, data, after, json, items, rfl, rest⟩ := brought
  exact ⟨before, data, after ++ [event], json, items, by simp, rest⟩

theorem completed_brought (foundation : Foundation) (history : List Event) (request : ℕ) (outcome : Outcome)
    (posts : List Post) (fetched : Fetched foundation history request)
    (answered : taskCompleted foundation outcome = some posts) :
    Brought foundation (history ++ [.complete request outcome]) request posts := by
  cases outcome with
  | failed error => cases answered
  | loaded data =>
      rw [taskCompleted] at answered
      cases decoded : decodeResults foundation data with
      | error error => rw [decoded] at answered; cases answered
      | ok results =>
          rw [decoded] at answered
          cases answered
          rw [decodeResults] at decoded
          cases parsed : foundation.parse data with
          | none => rw [parsed] at decoded; cases decoded
          | some json =>
              rw [parsed] at decoded
              obtain ⟨items, found, hits⟩ := (results_reads [] json results).mp decoded
              exact ⟨history, data, [], json, items, rfl, fetched, parsed, found, hits⟩

structure Kept (foundation : Foundation) (history : List Event) (manager : NetworkManager) : Prop where
  reached : run (step foundation) launched history = some manager
  sound : manager.requests.Sound
  fetched : ∀ request < manager.requests.issued, Fetched foundation history request
  traced : manager.requests.Traced (Brought foundation history)
  rendered : Rendered manager

theorem launched_kept (foundation : Foundation) : Kept foundation [] launched :=
  ⟨rfl, Session.start_sound, fun _ impossible => absurd impossible (Nat.not_lt_zero _), Session.start_traced _, rfl⟩

theorem step_kept (foundation : Foundation) (history : List Event) (manager : NetworkManager) (event : Event)
    (next : NetworkManager) (kept : Kept foundation history manager) (moved : step foundation manager event = some next) :
    Kept foundation (history ++ [event]) next := by
  have reached : run (step foundation) launched (history ++ [event]) = some next := by
    rw [run_snoc, kept.reached]
    exact moved
  have sound := Session.moves_sound _ _ _ _ kept.sound (step_moves foundation manager event next moved)
  have rendered := step_rendered foundation manager event next kept.rendered moved
  have before : ∀ request < manager.requests.issued, Fetched foundation (history ++ [event]) request :=
    fun request made => fetched_later foundation history event request (kept.fetched request made)
  have earlier : manager.requests.Traced (Brought foundation (history ++ [event])) :=
    Session.traced_mono _ _ (brought_later foundation history event) _ kept.traced
  cases event with
  | onAppear =>
      cases moved
      refine ⟨reached, sound, ?_, ?_, rendered⟩
      · intro request made
        rw [fetchData] at made
        cases taken : foundation.url frontPage with
        | none =>
            rw [taken] at made
            exact before request made
        | some url =>
            rw [taken] at made
            rcases Nat.lt_succ_iff_lt_or_eq.mp made with old | rfl
            · exact before request old
            · exact ⟨history, [], manager, rfl, kept.reached, rfl, by rw [taken]; rfl⟩
      · rw [fetchData]
        cases foundation.url frontPage <;> exact earlier
  | complete request outcome =>
      cases moved
      by_cases outstanding : manager.requests.Outstanding request
      · rw [completed, if_pos outstanding] at reached sound rendered ⊢
        refine ⟨reached, sound, by rw [Session.answer_issued]; exact before, ?_, rendered⟩
        refine Session.answer_traced _ _ request _ ?_ earlier
        intro posts answered
        exact completed_brought foundation history request outcome posts (kept.fetched request outstanding.1) answered
      · rw [completed, if_neg outstanding] at reached sound rendered ⊢
        exact ⟨reached, sound, before, earlier, rendered⟩
  | turn =>
      obtain ⟨requests, turned, rfl⟩ := Option.map_eq_some_iff.mp moved
      exact ⟨reached, sound, by rw [Session.turn_issued _ _ turned]; exact before,
        Session.turn_traced _ _ requests earlier turned, rendered⟩

-- In every run the list is empty or holds the whole of one response, never a
-- part of one or a mixture of two.
theorem posts_of_one_response (foundation : Foundation) (events : List Event) (manager : NetworkManager)
    (ran : run (step foundation) launched events = some manager) :
    manager.posts = [] ∨ ∃ request, Brought foundation events request manager.posts := by
  have kept := run_invariant (step foundation) launched (Kept foundation) (launched_kept foundation)
    (step_kept foundation) events manager ran
  have rendered := kept.rendered
  rw [Rendered] at rendered
  cases isShown : manager.requests.shown with
  | none =>
      rw [isShown] at rendered
      exact Or.inl rendered
  | some shown =>
      rw [isShown] at rendered
      have brought := Session.traced_shown _ _ kept.sound kept.traced shown isShown
      exact Or.inr ⟨shown.1, by rw [rendered]; exact brought⟩

def leanPost : Post := ⟨"1", "Lean", 3, none⟩

def leanPage : Json :=
  .object [("hits", .array [.object [("objectID", .string "1"), ("title", .string "Lean"), ("points", .number 3)]])]

def leanBody : Data :=
  "\x7b\"hits\":[\x7b\"objectID\":\"1\",\"title\":\"Lean\",\"points\":3\x7d]\x7d".toUTF8.data.toList

def readLean (data : Data) : Option Json := if data = leanBody then some leanPage else none

theorem read_lean : readLean leanBody = some leanPage := if_pos rfl

def leanNews : Foundation := ⟨some, readLean⟩

theorem lean_taken : taskCompleted leanNews (.loaded leanBody) = some [leanPost] := by
  have decoded : Results.decode [] leanPage = .ok ⟨[leanPost]⟩ := by decide +kernel
  have parsed : decodeResults leanNews leanBody = .ok ⟨[leanPost]⟩ := by
    rw [decodeResults, show leanNews.parse = readLean from rfl, read_lean]
    exact decoded
  rw [taskCompleted, parsed]

def leanFetched : List Event := [.onAppear, .complete 0 (.loaded leanBody), .turn]

theorem lean_post_brought : ∃ request, Brought leanNews leanFetched request [leanPost] := by
  have ran : (run (step leanNews) launched leanFetched).map NetworkManager.posts = some [leanPost] := by
    have answered : completed leanNews ⟨Session.start.issue, []⟩ 0 (.loaded leanBody) =
        ⟨Session.start.issue.answer 0 (some [leanPost]), []⟩ := by
      rw [completed, if_pos (by decide), lean_taken]
    change ((run (step leanNews) (completed leanNews ⟨Session.start.issue, []⟩ 0 (.loaded leanBody)) [.turn]).map _) = _
    rw [answered]
    rfl
  obtain ⟨manager, reached, posts⟩ := Option.map_eq_some_iff.mp ran
  rcases posts_of_one_response leanNews leanFetched manager reached with empty | brought
  · cases posts.symm.trans empty
  · rwa [posts] at brought

-- A response is taken as a whole or, because of one declared property of one
-- hit, not at all.
theorem response_taken_whole (foundation : Foundation) (data : Data) (json : Json)
    (parsed : foundation.parse data = some json) :
    (∃ results, Hits json results ∧ taskCompleted foundation (.loaded data) = some results.hits) ∨
      ((∀ results, ¬ Hits json results) ∧ taskCompleted foundation (.loaded data) = none ∧
        ∃ error, decodeResults foundation data = .error error ∧ error.Blames [] Results.fields json) := by
  have decodes : decodeResults foundation data = Results.decode [] json := by rw [decodeResults, parsed]
  cases outcome : Results.decode [] json with
  | ok results =>
      refine Or.inl ⟨results, (results_reads [] json results).mp outcome, ?_⟩
      rw [taskCompleted, decodes, outcome]
  | error error =>
      refine Or.inr ⟨?_, ?_, error, decodes.trans outcome, results_blaming [] json error outcome⟩
      · intro results hits
        cases outcome.symm.trans ((results_reads [] json results).mpr hits)
      · rw [taskCompleted, decodes, outcome]

theorem lean_page_taken :
    ∃ results, Hits leanPage results ∧ taskCompleted leanNews (.loaded leanBody) = some results.hits := by
  rcases response_taken_whole leanNews leanBody leanPage read_lean with taken | ⟨_, untaken, _⟩
  · exact taken
  · cases lean_taken.symm.trans untaken

end Pets.H4X0RNews
