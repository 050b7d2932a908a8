import Pets.Library.Characters
import Pets.Library.Delayed
import Pets.Library.Transition

set_option autoImplicit false

namespace Pets.FlashChat

open Pets.Transition

structure WelcomeViewController where
  welcomeLabel : Option String
  timers : Delayed String
deriving DecidableEq

def appName : String := "Welcome to Flash Chat!"

def invitation : String := "\n\nSign in to your account\nif you exists, or sign up if not."

-- In tenths of a millisecond; a timer without an interval is given one of them.
def interval (charIndex : ℕ) : ℕ := if charIndex = 0 then 1 else 1000 * charIndex

def scheduleLetters (timers : Delayed String) (charIndex : ℕ) : List String → Delayed String
  | [] => timers
  | letter :: rest => scheduleLetters (timers.after (interval charIndex) letter) (charIndex + 1) rest

def viewDidLoad (characters : Characters) (titleText : String) (welcomeLabel : Option String) :
    WelcomeViewController :=
  ⟨welcomeLabel, scheduleLetters Delayed.start 0 (characters.of titleText)⟩

def timerFired (titleText : String) (welcomeLabel : Option String) (letter : String) : Option String :=
  let appended := welcomeLabel.map fun text => text ++ letter
  if letter = "!" then some (titleText ++ invitation) else appended

inductive WelcomeEvent where
  | wait (elapsed : ℕ)
  | fire
deriving DecidableEq

def welcomeStep (titleText : String) (controller : WelcomeViewController) : WelcomeEvent → Option WelcomeViewController
  | .wait elapsed => some { controller with timers := controller.timers.wait elapsed }
  | .fire =>
      match controller.timers.fire with
      | some (letter, timers) => some ⟨timerFired titleText controller.welcomeLabel letter, timers⟩
      | none => some controller

def timed (charIndex : ℕ) : List String → List (ℕ × String)
  | [] => []
  | letter :: rest => (interval charIndex, letter) :: timed (charIndex + 1) rest

-- What the label reads after the letters: they follow what stood there, or, from
-- the last exclamation mark on, the title and the invitation.
def Reads (titleText : String) (initial : Option String) (letters : List String) (label : Option String) : Prop :=
  ("!" ∉ letters ∧ label = initial.map fun text => text ++ String.join letters) ∨
    ∃ before since, letters = before ++ "!" :: since ∧ "!" ∉ since ∧
      label = some (titleText ++ invitation ++ String.join since)

-- The letters typed so far are those whose timers have fired, none of them early.
structure Typing (characters : Characters) (titleText : String) (initial : Option String)
    (letters rest : List String) (controller : WelcomeViewController) : Prop where
  split : characters.of titleText = letters ++ rest
  waiting : controller.timers.pending = timed letters.length rest
  due : ∀ charIndex < letters.length, interval charIndex ≤ controller.timers.now
  reads : Reads titleText initial letters controller.welcomeLabel

theorem interval_mono (charIndex : ℕ) : interval charIndex ≤ interval (charIndex + 1) := by
  rw [interval, interval, if_neg (Nat.succ_ne_zero _)]
  split <;> omega

theorem schedule_letters (timers : Delayed String) (charIndex : ℕ) (letters : List String) (fresh : timers.now = 0)
    (earlier : ∀ waiting ∈ timers.pending, waiting.1 ≤ interval charIndex) :
    (scheduleLetters timers charIndex letters).pending = timers.pending ++ timed charIndex letters ∧
      (scheduleLetters timers charIndex letters).now = 0 := by
  induction letters generalizing timers charIndex with
  | nil => exact ⟨(List.append_nil _).symm, fresh⟩
  | cons letter rest ih =>
      have last : (timers.after (interval charIndex) letter).pending = timers.pending ++ [(interval charIndex, letter)] := by
        have appended := timers.after_last (interval charIndex) letter (by rw [fresh, Nat.zero_add]; exact earlier)
        rwa [fresh, Nat.zero_add] at appended
      have later : ∀ waiting ∈ (timers.after (interval charIndex) letter).pending, waiting.1 ≤ interval (charIndex + 1) := by
        intro waiting member
        rw [last] at member
        rcases List.mem_append.mp member with before | now
        · exact Nat.le_trans (earlier waiting before) (interval_mono charIndex)
        · rw [List.mem_singleton.mp now]
          exact interval_mono charIndex
      obtain ⟨pending, now⟩ := ih (timers.after (interval charIndex) letter) (charIndex + 1) fresh later
      refine ⟨?_, now⟩
      rw [scheduleLetters, pending, last, List.append_assoc]
      rfl

variable (characters : Characters) (titleText : String) (initial : Option String)

theorem loaded_typing : Typing characters titleText initial [] (characters.of titleText)
    (viewDidLoad characters titleText initial) := by
  obtain ⟨pending, _⟩ := schedule_letters Delayed.start 0 (characters.of titleText) rfl (fun _ impossible =>
    (List.not_mem_nil impossible).elim)
  refine ⟨rfl, pending, fun _ impossible => absurd impossible (Nat.not_lt_zero _), Or.inl ⟨List.not_mem_nil, ?_⟩⟩
  cases initial <;> simp [viewDidLoad]

theorem join_snoc (letters : List String) (letter : String) :
    String.join (letters ++ [letter]) = String.join letters ++ letter := by
  rw [String.join_append, String.join_cons, String.join_nil, String.append_empty]

theorem reads_snoc (letters : List String) (label : Option String) (letter : String)
    (reads : Reads titleText initial letters label) :
    Reads titleText initial (letters ++ [letter]) (timerFired titleText label letter) := by
  by_cases ends : letter = "!"
  · subst ends
    exact Or.inr ⟨letters, [], rfl, List.not_mem_nil, by simp [timerFired]⟩
  · rcases reads with ⟨plain, rfl⟩ | ⟨before, since, rfl, plain, rfl⟩
    · refine Or.inl ⟨?_, ?_⟩
      · simp [plain, Ne.symm ends]
      · rw [timerFired, if_neg ends, Option.map_map, join_snoc]
        congr 1
        funext text
        exact String.append_assoc
    · refine Or.inr ⟨before, since ++ [letter], by simp, ?_, ?_⟩
      · simp [plain, Ne.symm ends]
      · rw [timerFired, if_neg ends, Option.map_some, join_snoc, ← String.append_assoc]

theorem step_typing (letters rest : List String) (controller next : WelcomeViewController) (event : WelcomeEvent)
    (typing : Typing characters titleText initial letters rest controller)
    (moved : welcomeStep titleText controller event = some next) :
    ∃ letters rest, Typing characters titleText initial letters rest next := by
  cases event with
  | wait elapsed =>
      cases moved
      refine ⟨letters, rest, typing.split, typing.waiting, ?_, typing.reads⟩
      exact fun charIndex typed => Nat.le_trans (typing.due charIndex typed) (Nat.le_add_right _ _)
  | fire =>
      cases fired : controller.timers.fire with
      | none =>
          rw [welcomeStep, fired] at moved
          cases moved
          exact ⟨letters, rest, typing⟩
      | some pair =>
          obtain ⟨letter, timers⟩ := pair
          rw [welcomeStep, fired] at moved
          cases moved
          obtain ⟨deadline, pending, early, now⟩ := Delayed.fire_cases _ _ _ fired
          cases rest with
          | nil => cases typing.waiting.symm.trans pending
          | cons first rest =>
              have same := typing.waiting.symm.trans pending
              injection same with head tail
              injection head with time letterSame
              subst letterSame
              refine ⟨letters ++ [first], rest, ?_, ?_, ?_, reads_snoc _ _ _ _ _ typing.reads⟩
              · rw [typing.split, List.append_assoc]
                rfl
              · rw [List.length_append]
                exact tail.symm
              · intro charIndex typed
                rw [now]
                rw [List.length_append, List.length_singleton] at typed
                rcases Nat.lt_succ_iff_lt_or_eq.mp typed with before | rfl
                · exact typing.due charIndex before
                · rw [time]
                  exact early

theorem run_typing (events : List WelcomeEvent) (controller : WelcomeViewController)
    (ran : run (welcomeStep titleText) (viewDidLoad characters titleText initial) events = some controller) :
    ∃ letters rest, Typing characters titleText initial letters rest controller := by
  apply run_invariant (welcomeStep titleText) (viewDidLoad characters titleText initial)
    (fun _ state => ∃ letters rest, Typing characters titleText initial letters rest state)
    ⟨[], characters.of titleText, loaded_typing characters titleText initial⟩ _ events controller ran
  intro _ state event next ⟨letters, rest, typing⟩ moved
  exact step_typing characters titleText initial letters rest state next event typing moved

theorem join_filled (letters : List String) (letter : String) (filled : letter ≠ "") :
    String.join (letters ++ [letter]) ≠ "" := by
  intro empty
  rw [join_snoc] at empty
  exact filled (String.append_eq_empty_iff.mp empty).2

theorem settled_reads_iff (label : Option String) (ends : "!" ∈ characters.of titleText)
    (reads : Reads titleText initial (characters.of titleText) label) :
    label = some (titleText ++ invitation) ↔ (characters.of titleText).getLast? = some "!" := by
  rcases reads with ⟨plain, _⟩ | ⟨before, since, split, plain, rfl⟩
  · exact absurd ends plain
  · have filled := characters.filled titleText
    rw [split] at filled ⊢
    cases since using List.reverseRecOn with
    | nil => simp
    | append_singleton since last =>
        have differs : last ≠ "!" := fun same => plain (by rw [same]; simp)
        refine iff_of_false ?_ ?_
        · intro same
          have empty := String.append_eq_left_iff.mp (Option.some.inj same)
          exact join_filled since last (filled last (by simp)) empty
        · rw [← List.cons_append, ← List.append_assoc, List.getLast?_concat]
          exact fun same => differs (Option.some.inj same)

-- In every run the title is typed letter by letter, in its order and no letter before its
-- time. Once it is typed out it stands on the label as a whole, and with an exclamation mark
-- in it, it has the invitation below it, and nothing else, exactly when it ends in one.
theorem welcome_typed (events : List WelcomeEvent) (controller : WelcomeViewController)
    (ran : run (welcomeStep titleText) (viewDidLoad characters titleText initial) events = some controller) :
    (∃ letters rest, Typing characters titleText initial letters rest controller) ∧
      (controller.timers.pending = [] →
        ("!" ∉ characters.of titleText → controller.welcomeLabel = initial.map (· ++ titleText)) ∧
          ("!" ∈ characters.of titleText →
            (controller.welcomeLabel = some (titleText ++ invitation) ↔
              (characters.of titleText).getLast? = some "!"))) := by
  have typing := run_typing characters titleText initial events controller ran
  refine ⟨typing, ?_⟩
  intro settled
  obtain ⟨letters, rest, typing⟩ := typing
  have all : rest = [] := by
    cases rest with
    | nil => rfl
    | cons first rest => cases settled.symm.trans typing.waiting
  have whole : characters.of titleText = letters := by rw [typing.split, all, List.append_nil]
  have reads := typing.reads
  rw [← whole] at reads
  refine ⟨?_, fun ends => settled_reads_iff characters titleText initial _ ends reads⟩
  intro plain
  rcases reads with ⟨_, label⟩ | ⟨before, since, split, _⟩
  · rw [label, characters.joined titleText]
  · exact absurd (by rw [split]; simp) plain

theorem app_name_typing :
    ∃ controller, run (welcomeStep appName) (viewDidLoad .scalars appName (some "")) [.wait 1, .fire] = some controller ∧
      ∃ letters rest, Typing .scalars appName (some "") letters rest controller := by
  obtain ⟨controller, ran⟩ : ∃ controller,
      run (welcomeStep appName) (viewDidLoad .scalars appName (some "")) [.wait 1, .fire] = some controller := by
    apply Option.isSome_iff_exists.mp
    decide +kernel
  exact ⟨controller, ran, (welcome_typed .scalars appName (some "") [.wait 1, .fire] controller ran).1⟩

end Pets.FlashChat
