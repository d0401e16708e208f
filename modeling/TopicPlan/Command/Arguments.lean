/-!
Taking a command line's arguments apart. Switches have a long spelling, and some a short one; short
ones can be joined. A value follows its switch, in the same argument or as the next one, whatever it
looks like. After two dashes no argument is a switch.
-/

namespace TopicPlan.Command

structure Switch where
  long : String
  short : Option Char
  takesValue : Bool
deriving DecidableEq, Repr

/-- The switches that are given, by their long spelling and with their values, and the arguments
that are none. -/
structure Arguments where
  given : List (String × String)
  rest : List String
deriving DecidableEq, Repr

namespace Arguments

def addGiven (more : List (String × String)) (arguments : Arguments) : Arguments :=
  { arguments with given := more ++ arguments.given }

def addRest (argument : String) (arguments : Arguments) : Arguments :=
  { arguments with rest := argument :: arguments.rest }

/-- The value of a switch; of several values the last one counts. -/
def value? (arguments : Arguments) (long : String) : Option String :=
  arguments.given.reverse.lookup long

def has (arguments : Arguments) (long : String) : Bool := (arguments.value? long).isSome

end Arguments

/-- The switches of one argument, and whether the last of them takes the next argument as its
value. -/
abbrev Switches := List (String × String) × Bool

def withValue (switch : Switch) (value next : Option String) : Option Switches :=
  match value, next with
  | some value, _ => some ([(switch.long, value)], false)
  | none, some next => some ([(switch.long, next)], true)
  | none, none => none

def shortSwitches (switches : List Switch) (next : Option String) : List Char → Option Switches
  | [] => some ([], false)
  | c :: rest =>
    match switches.find? fun switch => switch.short == some c with
    | none => none
    | some switch =>
      if switch.takesValue then
        withValue switch (if rest.isEmpty then none else some (String.ofList rest)) next
      else (shortSwitches switches next rest).map fun (given, usesNext) =>
        ((switch.long, "") :: given, usesNext)

def switchesOf (switches : List Switch) (argument : List Char) (next : Option String) :
    Option Switches :=
  let name := argument.takeWhile (· != '=')
  let value := match argument.dropWhile (· != '=') with
    | _ :: value => some (String.ofList value)
    | [] => none
  match switches.find? fun switch => switch.long.toList == name with
  | some switch =>
    if switch.takesValue then withValue switch value next
    else if value.isSome then none
    else some ([(switch.long, "")], false)
  | none =>
    match argument with
    | '-' :: '-' :: _ => none
    | _ => shortSwitches switches next (argument.drop 1)

/-- Takes arguments apart. Switches may come after other arguments only where `anywhere` says so. No
answer means that an argument is no switch, or that its value is missing or too much. -/
def takeApart (switches : List Switch) (anywhere : Bool) : List String → Option Arguments
  | [] => some ⟨[], []⟩
  | argument :: rest =>
    if argument = "--" then some ⟨[], rest⟩
    else match argument.toList with
      | '-' :: c :: cs =>
        match switchesOf switches ('-' :: c :: cs) rest.head? with
        | none => none
        | some (given, false) => (takeApart switches anywhere rest).map (·.addGiven given)
        | some (given, true) =>
          match rest with
          | [] => none
          | _ :: rest => (takeApart switches anywhere rest).map (·.addGiven given)
      | _ =>
        if anywhere then (takeApart switches anywhere rest).map (·.addRest argument)
        else some ⟨[], argument :: rest⟩

end TopicPlan.Command
