import DualEval.Expression.Basic
import DualEval.Json.Parser
import DualEval.Json.Printer
import DualEval.Settings.Basic

/-!
# Settings as JSON

A structure is read from an object, in which unknown members are ignored, or from a list of its
fields in order.  Settings are the defaults overlaid by what is present; a field that is present
has to have its type, and null is not a way to leave it out.  The fields of an expression are all
required.
-/

namespace DualEval

namespace Json

/-- A variant without parts: its name, or an object with the name as its only member and null as
the value. -/
def variant? {α : Type} (name : α → String) (variants : List α) : Json → Option α
  | text s => variants.find? fun variant => name variant = s
  | object [(s, null)] => variants.find? fun variant => name variant = s
  | _ => none

/-- A number rounded to the 32-bit format: an exact integer directly, any other number from its
64-bit datum. -/
def binary32? : Json → Option Binary32
  | integer n => some (Datum.ofInt binary32 n)
  | float x => some (x.convert binary32)
  | _ => none

/-- The fields of a structure, by position; a field may be absent, but none may be too many. -/
def fields? (names : List String) : Json → Option (List (Option Json))
  | object members => some (names.map fun name => members.lookup name)
  | list items =>
    if items.length ≤ names.length then
      some ((items.map some) ++ List.replicate (names.length - items.length) none)
    else none
  | _ => none

/-- A field that falls back to a default when absent, and has to be readable when present. -/
def orDefault {α : Type} (default : α) (read : Json → Option α) : Option Json → Option α
  | none => some default
  | some value => read value

/-- An integer of one unsigned 64-bit word. -/
def word? : Json → Option { n : Nat // n < UInt64.size }
  | integer (.ofNat n) => if h : n < UInt64.size then some ⟨n, h⟩ else none
  | _ => none

end Json

namespace Operator

def name : Operator → String
  | add => "Add"
  | subtract => "Subtract"
  | multiply => "Multiply"
  | divide => "Divide"

def ofJson? : Json → Option Operator := Json.variant? name all

end Operator

namespace PowerPreference

/-- Read a preference by its name. -/
def ofJson? : Json → Option PowerPreference :=
  Json.variant? name [none, lowPower, highPerformance]

end PowerPreference

namespace AcceleratorSettings

/-- The names of the fields in order. -/
def fieldNames : List String :=
  ["power_preference", "force_fallback_adapter", "readback_timeout_ms"]

/-- Read settings; absent fields keep their defaults. -/
def ofJson? (value : Json) : Option AcceleratorSettings := do
  let [preference, fallback, timeout] ← Json.fields? fieldNames value | none
  let powerPreference ← Json.orDefault .highPerformance PowerPreference.ofJson? preference
  let forceFallbackAdapter ← Json.orDefault false Json.bool? fallback
  let bound ← Json.orDefault ⟨5000, defaultTimeoutMs_lt⟩ Json.word? timeout
  return {
    powerPreference
    forceFallbackAdapter
    readbackTimeoutMs := bound.val
    readbackTimeoutMs_lt := bound.property }

/-- The settings as an object with all fields in order. -/
def toJson (s : AcceleratorSettings) : Json :=
  .object [
    ("power_preference", .text s.powerPreference.name),
    ("force_fallback_adapter", .bool s.forceFallbackAdapter),
    ("readback_timeout_ms", .integer s.readbackTimeoutMs)]

/-- The settings as compact text. -/
def render (s : AcceleratorSettings) : String := s.toJson.render

def parse? (text : String) : Option AcceleratorSettings := (Json.parse? text).bind ofJson?

end AcceleratorSettings

namespace EvaluatorSettings

/-- The names of the fields in order. -/
def fieldNames : List String := ["accelerator", "parity_tolerance"]

/-- Read settings; absent fields keep their defaults. -/
def ofJson? (value : Json) : Option EvaluatorSettings := do
  let [accelerator, tolerance] ← Json.fields? fieldNames value | none
  let accelerator ← Json.orDefault {} AcceleratorSettings.ofJson? accelerator
  let parityTolerance ← Json.orDefault defaultTolerance Json.binary32? tolerance
  return { accelerator, parityTolerance }

end EvaluatorSettings

namespace Expression

/-- The names of the fields in order. -/
def fieldNames : List String := ["operator", "reserved", "operand_a", "operand_b"]

/-- Read an expression; every field is required. -/
def ofJson? (value : Json) : Option Expression := do
  let [operator, reserved, left, right] ← Json.fields? fieldNames value | none
  let operator ← operator.bind Operator.ofJson?
  let reserved ← reserved.bind Json.binary32?
  let left ← left.bind Json.binary32?
  let right ← right.bind Json.binary32?
  return { operator, left, right, reserved }

end Expression

end DualEval
