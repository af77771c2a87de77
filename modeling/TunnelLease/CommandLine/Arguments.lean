/-!
# Arguments

Arguments are options and plain words in any order.  An option starts with a minus
sign and, in the long form, takes its value from behind an equals sign or from the
next argument, whatever that looks like.  Two minus signs end the options.  A minus
sign alone is a plain word.
-/

namespace TunnelLease

namespace CommandLine

/-- Whether an argument is an option, known or not. -/
def isOption (argument : String) : Bool :=
  match argument.toList with
  | '-' :: _ :: _ => true
  | _ => false

/-- An option's name, and its value if it stands behind an equals sign. -/
def splitOption (argument : String) : String × Option String :=
  let name := String.ofList (argument.toList.takeWhile (· != '='))
  match argument.toList.dropWhile (· != '=') with
  | [] => (name, none)
  | _ :: value => (name, some (String.ofList value))

/-- Options with their values, and plain words, in the order of the arguments. -/
structure Arguments where
  values : List (String × String)
  words : List String
deriving DecidableEq

namespace Arguments

/-- The value of an option: the last one counts. -/
def value? (arguments : Arguments) (name : String) : Option String :=
  (arguments.values.reverse.find? fun given => given.1 == name).map (·.2)

/-- Reads arguments whose options, all of which take a value, have given names.
There is no answer if an option is unknown or lacks its value. -/
def read? (names : List String) : List String → Option Arguments
  | [] => some ⟨[], []⟩
  | argument :: rest =>
      if argument = "--" then some ⟨[], rest⟩
      else if isOption argument then
        let option := splitOption argument
        if option.1 ∈ names then
          match option.2 with
          | some value => (read? names rest).map fun later =>
              { later with values := (option.1, value) :: later.values }
          | none =>
              match rest with
              | [] => none
              | value :: after => (read? names after).map fun later =>
                  { later with values := (option.1, value) :: later.values }
        else none
      else (read? names rest).map fun later =>
        { later with words := argument :: later.words }

end Arguments

/-- Whether an argument asks to be told more: the long option, or the letter of the
short one any number of times. -/
def isVerbose (argument : String) : Bool :=
  argument == "--verbose" ||
    match argument.toList with
    | '-' :: letter :: letters => (letter :: letters).all (· == 'v')
    | _ => false

/-- Skips the switches in front of a command.  There is no answer if one is unknown. -/
def skipSwitches (known : String → Bool) : List String → Option (List String)
  | [] => some []
  | argument :: rest =>
      if argument = "--" then some rest
      else if isOption argument then if known argument then skipSwitches known rest else none
      else some (argument :: rest)

end CommandLine

end TunnelLease
