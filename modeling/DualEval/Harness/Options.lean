import DualEval.Decimal.Number
import DualEval.Harness.Failure
import DualEval.Settings.Basic
import DualEval.Text.Integer

/-!
# Options

Arguments are read in order; a later one overrides an earlier one of its kind, and the first bad one
ends the reading.
-/

namespace DualEval.Harness

/-- Why a text is no seed: it is read as hexadecimal or as decimal. -/
inductive SeedError where
  | hexadecimal (cause : Text.IntegerError)
  | decimal (cause : Text.IntegerError)
deriving DecidableEq

namespace SeedError

/-- The wording of the error and of its cause. -/
def messages : SeedError → List String
  | hexadecimal cause => ["expected hex literal", cause.message]
  | decimal cause => ["expected integer seed", cause.message]

end SeedError

/-- Read a seed: hexadecimal digits after `0x` or `0X`, otherwise decimal digits. -/
def readSeed (text : List Char) : Except SeedError UInt64 :=
  match text with
  | '0' :: 'x' :: digits | '0' :: 'X' :: digits =>
    match Text.readInteger 16 Text.wordLimit digits with
    | .ok n => .ok (UInt64.ofNat n)
    | .error cause => .error (.hexadecimal cause)
  | digits =>
    match Text.readInteger 10 Text.wordLimit digits with
    | .ok n => .ok (UInt64.ofNat n)
    | .error cause => .error (.decimal cause)

/-- What a run is asked to do. -/
structure Options where
  count : Nat := 128
  seed : UInt64 := 0xA11CE
  tolerance : Binary32 := defaultTolerance
  skipDispatch : Bool := false
deriving DecidableEq

/-- Why an argument is refused. -/
inductive OptionError where
  | count (cause : Text.IntegerError)
  | seed (cause : SeedError)
  | tolerance (cause : Decimal.NumberError)
  | unrecognized (argument : String)
deriving DecidableEq

namespace OptionError

/-- The failure that ends the run. -/
def toFailure : OptionError → Failure
  | count cause => { message := "invalid --count value", causes := [cause.message] }
  | seed cause => { message := "invalid --seed value", causes := cause.messages }
  | tolerance cause => { message := "invalid --tolerance value", causes := [cause.message] }
  | unrecognized argument => { message := "unrecognized argument: " ++ argument }

end OptionError

/-- What follows a given beginning of a text. -/
def after? : List Char → List Char → Option (List Char)
  | [], text => some text
  | _ :: _, [] => none
  | c :: start, d :: text => if c = d then after? start text else none

namespace Options

/-- An argument, taken apart: an option with the text of its value, or a flag. -/
inductive Argument where
  | count (value : List Char)
  | seed (value : List Char)
  | tolerance (value : List Char)
  | skipDispatch
  | unrecognized

/-- Tell what an argument is. -/
def classify (argument : String) : Argument :=
  let text := argument.toList
  match after? "--count=".toList text, after? "--seed=".toList text,
    after? "--tolerance=".toList text with
  | some value, _, _ => .count value
  | none, some value, _ => .seed value
  | none, none, some value => .tolerance value
  | none, none, none => if argument = "--skip-dispatch" then .skipDispatch else .unrecognized

/-- Take one argument into account. -/
def accept (options : Options) (argument : String) : Except OptionError Options :=
  match classify argument with
  | .count value =>
    match Text.readInteger 10 Text.wordLimit value with
    | .ok count => .ok { options with count }
    | .error cause => .error (.count cause)
  | .seed value =>
    match readSeed value with
    | .ok seed => .ok { options with seed }
    | .error cause => .error (.seed cause)
  | .tolerance value =>
    match Decimal.readNumber binary32 value with
    | .ok tolerance => .ok { options with tolerance }
    | .error cause => .error (.tolerance cause)
  | .skipDispatch => .ok { options with skipDispatch := true }
  | .unrecognized => .error (.unrecognized argument)

/-- Read the arguments after those already taken into account. -/
def readFrom (options : Options) : List String → Except OptionError Options
  | [] => .ok options
  | argument :: rest =>
    match options.accept argument with
    | .ok options => readFrom options rest
    | .error error => .error error

def read (arguments : List String) : Except OptionError Options := readFrom {} arguments

end Options

end DualEval.Harness
