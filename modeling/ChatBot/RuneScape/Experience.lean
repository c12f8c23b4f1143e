import ChatBot.Binary64.PowerOfTwo
import ChatBot.Binary64.Reading
import ChatBot.Text.Grouping

/-!
Experience and levels in RuneScape.

* `step`: four times the experience from one level to the next;
* `experienceFor`: the experience that a level needs, and `levelAt`, the level that an amount of
  experience reaches;
* `levelText`, `experienceText`, `betweenText`: the replies.
-/

namespace ChatBot.RuneScape

/-- The highest level. -/
def maxLevel : Int := 126

/-- The experience that nobody can have. -/
def ceiling : Float := 200000001

/-- Four times the experience from a level to the next, in whole points. -/
def step (level : Nat) : Float :=
  let x := Binary64.ofInt level
  Binary64.trunc (x + 300 * Binary64.powerOfTwo (x / 7))

/-- Four times the experience from the first level to another. -/
def stepsBelow (level : Nat) : Float :=
  ((List.range' 1 (level - 1)).map step).foldl (· + ·) 0

/-- The experience that a level needs. -/
def experienceFor (level : Int) : Int :=
  Binary64.toInt64 (Binary64.trunc (stepsBelow level.toNat / 4))

/-- How many of the next levels are reached, where `threshold` is what the first of them needs. -/
def countReached (experience threshold : Float) : List Nat → Nat
  | [] => 0
  | level :: rest =>
    if threshold ≤ experience then
      1 + countReached experience ((threshold * 4 + step level) / 4) rest
    else 0

/-- Levels up to one that more than 64 bits of experience would be needed for. -/
def levels : List Nat := List.range' 1 400

/-- The highest level that an amount of experience reaches. -/
def levelAt (experience : Int) : Nat := countReached (Binary64.ofInt experience) 0 levels

/-- An integer with commas. -/
def shown (n : Int) : String := String.ofList (Text.withCommas n)

/-- The reply that tells the experience of a level. -/
def levelText (arg : Option String) : String :=
  match arg with
  | none => "Please enter a level."
  | some arg =>
    match arg.toInt64? with
    | none => "Syntax error."
    | some level =>
      if level < 1 then s!"Level {level} does not exist."
      else if level ≤ maxLevel then
        s!"Runescape Level {level} = {shown (experienceFor level)} xp"
      else if level < 9000 then
        s!"I was gonna calculate xp at Level {level}. Then I took an arrow to the knee."
      else if level = 9000 then "Almost there."
      else "It's over 9000!"

/-- The reply that tells the level of an amount of experience. -/
def experienceText (arg : Option String) : String :=
  match arg with
  | none => "Please enter xp."
  | some arg =>
    match Binary64.ofText? (arg.toList.filter (· ≠ ',')) with
    | none => "Syntax error."
    | some x =>
      if 0 ≤ x && x < ceiling then
        let experience := Binary64.toInt64 x
        s!"{shown experience} xp = level {levelAt experience}"
      else "You can't have that much xp!"

/-- A level among the arguments. -/
def level? (args : List String) (index : Nat) : Option Int := do
  let level ← (← args[index]?).toInt64?
  if 1 ≤ level && level ≤ maxLevel then some level else none

/-- Sums up the steps of some levels, and notes the experience of the level `start` when its turn
comes. -/
def sumNoting (start : Nat) (total : Float) (noted : Int) : List Nat → Float × Int
  | [] => (total, noted)
  | level :: rest =>
    sumNoting start (total + step level)
      (if level = start then Binary64.toInt64 (Binary64.trunc (total / 4)) else noted) rest

/-- The experience between two levels. A start that is not below the end counts as no experience. -/
def experienceBetween (start stop : Nat) : Int :=
  let (total, noted) := sumNoting start 0 0 (List.range' 1 (stop - 1))
  Binary64.toInt64 (Binary64.trunc (total / 4)) - noted

/-- The reply that tells the experience between two levels. -/
def betweenText (args : List String) : String :=
  match level? args 0, level? args 1 with
  | some start, some stop =>
    s!"{shown (experienceBetween start.toNat stop.toNat)} xp between level {start} and level {stop}"
  | _, _ => "Syntax error."

end ChatBot.RuneScape
