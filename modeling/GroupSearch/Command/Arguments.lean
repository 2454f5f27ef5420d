namespace GroupSearch.Command

inductive Declined
  | usage
  | help
  deriving DecidableEq, Repr

structure Arguments where
  values : List (String × String)
  help : Bool
  operands : List String
  deriving DecidableEq, Repr

def splitOption (argument : String) : String × Option String :=
  let cs := argument.toList
  match cs.dropWhile (· ≠ '=') with
  | [] => (argument, none)
  | _ :: value => (String.ofList (cs.takeWhile (· ≠ '=')), some (String.ofList value))

def isOption (argument : String) : Bool :=
  match argument.toList with
  | '-' :: _ :: _ => true
  | _ => false

/-- Sorts arguments, given the options that take a value. Behind `--` all are operands; without
`mixed` they are so from the first operand on. -/
def sortArguments (options : List String) (mixed : Bool) : List String → Option Arguments
  | [] => some ⟨[], false, []⟩
  | "--" :: rest => some ⟨[], false, rest⟩
  | argument :: rest =>
    if isOption argument then
      match splitOption argument with
      | ("--help", none) => (sortArguments options mixed rest).map fun a ↦ { a with help := true }
      | (name, some value) =>
        if options.contains name then
          (sortArguments options mixed rest).map fun a ↦
            { a with values := (name, value) :: a.values }
        else none
      | (name, none) =>
        match rest with
        | value :: rest =>
          if options.contains name then
            (sortArguments options mixed rest).map fun a ↦
              { a with values := (name, value) :: a.values }
          else none
        | [] => none
    else if mixed then
      (sortArguments options mixed rest).map fun a ↦ { a with operands := argument :: a.operands }
    else some ⟨[], false, argument :: rest⟩

def Arguments.value? (a : Arguments) (name : String) : Option String :=
  a.values.reverse.lookup name

def arguments (options : List String) (mixed : Bool) (given : List String) :
    Except Declined Arguments :=
  match sortArguments options mixed given with
  | none => .error .usage
  | some a => if a.help then .error .help else .ok a

end GroupSearch.Command
