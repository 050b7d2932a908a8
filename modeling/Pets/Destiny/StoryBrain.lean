import Mathlib.Data.Int.Notation

set_option autoImplicit false

namespace Pets.Destiny

structure Story where
  title : String
  choice1 : String
  choice1Destination : ℤ
  choice2 : String
  choice2Destination : ℤ
deriving DecidableEq

def builtInStories : List Story := [
  ⟨"Your car has blown a tire on a winding road in the middle of nowhere with no cell phone reception. You decide to hitchhike. A rusty pickup truck rumbles to a stop next to you. A man with a wide brimmed hat with soulless eyes opens the passenger door for you and asks: 'Need a ride, boy?'.",
    "I'll hop in. Thanks for the help!", 2, "Better ask him if he's a murderer first.", 1⟩,
  ⟨"He nods slowly, unfazed by the question.",
    "At least he's honest. I'll climb in.", 2, "Wait, I know how to change a tire.", 3⟩,
  ⟨"As you begin to drive, the stranger starts talking about his relationship with his mother. He gets angrier and angrier by the minute. He asks you to open the glovebox. Inside you find a bloody knife, two severed fingers, and a cassette tape of Elton John. He reaches for the glove box.",
    "I love Elton John! Hand him the cassette tape.", 5, "It's him or me! You take the knife and stab him.", 4⟩,
  ⟨"What? Such a cop out! Did you know traffic accidents are the second leading cause of accidental death for most adult age groups?",
    "The", 0, "End", 0⟩,
  ⟨"As you smash through the guardrail and careen towards the jagged rocks below you reflect on the dubious wisdom of stabbing someone while they are driving a car you are in.",
    "The", 0, "End", 0⟩,
  ⟨"You bond with the murderer while crooning verses of 'Can you feel the love tonight'. He drops you off at the next town. Before you go he asks you if you know any good places to dump bodies. You reply: 'Try the pier.'",
    "The", 0, "End", 0⟩]

structure StoryBrain where
  stories : List Story
  storyNumber : ℤ
deriving DecidableEq

def newBrain (stories : List Story) : StoryBrain := ⟨stories, 0⟩

-- Here and below none is the trap of an index out of range.
def story? (stories : List Story) (storyNumber : ℤ) : Option Story :=
  if 0 ≤ storyNumber then stories[storyNumber.toNat]? else none

def nextStory (brain : StoryBrain) (userChoice : String) : Option StoryBrain :=
  (story? brain.stories brain.storyNumber).map fun story =>
    if userChoice = story.choice1 then { brain with storyNumber := story.choice1Destination }
    else if userChoice = story.choice2 then { brain with storyNumber := story.choice2Destination }
    else brain

end Pets.Destiny
