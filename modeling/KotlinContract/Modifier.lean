/-!
# Declaration modifiers

The modifiers of functions and parameters, in the order in which they are written. A set of
modifiers is listed in that order and without repetition.
-/
namespace KotlinContract

/-- A declaration modifier. -/
inductive Modifier where
  /-- Visible everywhere. -/
  | isPublic
  /-- Visible in subclasses. -/
  | isProtected
  /-- Visible in the same file or class. -/
  | isPrivate
  /-- Visible in the same module. -/
  | isInternal
  /-- Replaces an inherited member. -/
  | overriding
  /-- Calls itself in tail position. -/
  | tailRecursive
  /-- May suspend. -/
  | suspending
  /-- Its body is copied to every call. -/
  | inlined
  /-- May be called between its operands. -/
  | betweenOperands
  /-- Gives meaning to an operator. -/
  | operator
  /-- Takes any number of arguments. -/
  | variadic
  /-- A function parameter that is not inlined. -/
  | notInlined
  /-- A function parameter that may not return from the caller. -/
  | crossInlined
  deriving DecidableEq

namespace Modifier

/-- All modifiers, in the order in which they are written. -/
def all : List Modifier :=
  [.isPublic, .isProtected, .isPrivate, .isInternal, .overriding, .tailRecursive, .suspending,
    .inlined, .betweenOperands, .operator, .variadic, .notInlined, .crossInlined]

/-- Every modifier is listed. -/
theorem mem_all (modifier : Modifier) : modifier ∈ all := by cases modifier <;> decide

/-- The keyword of a modifier. -/
def keyword : Modifier → String
  | .isPublic => "public"
  | .isProtected => "protected"
  | .isPrivate => "private"
  | .isInternal => "internal"
  | .overriding => "override"
  | .tailRecursive => "tailrec"
  | .suspending => "suspend"
  | .inlined => "inline"
  | .betweenOperands => "infix"
  | .operator => "operator"
  | .variadic => "vararg"
  | .notInlined => "noinline"
  | .crossInlined => "crossinline"

/-- The modifier with a keyword, if there is one. -/
def ofKeyword? (word : String) : Option Modifier := all.find? (·.keyword = word)

/-- The modifiers of a list, each once, in the order in which they are written. -/
def arranged (modifiers : List Modifier) : List Modifier := all.filter (· ∈ modifiers)

/-- Arranging loses no modifier and adds none. -/
@[simp] theorem mem_arranged {modifier : Modifier} {modifiers : List Modifier} :
    modifier ∈ arranged modifiers ↔ modifier ∈ modifiers := by
  simp [arranged, mem_all]

/-- Arranging twice is arranging once. -/
@[simp] theorem arranged_arranged (modifiers : List Modifier) :
    arranged (arranged modifiers) = arranged modifiers := by
  simp [arranged, mem_all]

/-- The modifiers as they stand in front of a declaration, each followed by a space. -/
def text : List Modifier → String
  | [] => ""
  | modifier :: rest => modifier.keyword ++ " " ++ text rest

end Modifier

end KotlinContract
