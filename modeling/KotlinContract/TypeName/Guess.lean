import KotlinContract.Error
import KotlinContract.Text.CharacterClass

/-!
# Class names from text

Three ways to write a class name as one text. A dotted name is divided where its first segment
with a capital letter begins; a name of compiled metadata separates packages by slashes, so the
last slash divides it; a shorthand is a dotted name that may end in question marks for a
nullable type.
-/
namespace KotlinContract

namespace ClassName

/-- A class name from its simple names. -/
def ofSimpleNames (package : String) : List String → Except Error ClassName
  | [] => .error .noSimpleName
  | outermost :: nested => .ok ⟨package, outermost, nested⟩

/-- Whether a text begins with an uppercase character. -/
def startsUppercase (segment : String) : Bool :=
  match segment.toList with
  | [] => false
  | c :: _ => Text.isUppercase c

/-- Divide the segments of a dotted name into a package and simple names. -/
def ofSegments? (segments : List String) : Option ClassName :=
  match segments.dropWhile (!startsUppercase ·) with
  | [] => none
  | outermost :: nested =>
    some ⟨Text.join "." (segments.takeWhile (!startsUppercase ·)), outermost, nested⟩

/-- The class that a dotted name most likely stands for. -/
def bestGuess (name : String) : Except Error ClassName :=
  match ofSegments? (Text.split '.' name) with
  | some found => .ok found
  | none => .error (.noClassIn name)

/-- The class that a name of compiled metadata stands for. A name that begins with a point
belongs to a local or anonymous class. -/
def ofMetadataName (name : String) : Except Error ClassName :=
  if name.toList.head? = some '.' then .error .anonymousClass
  else
    let (package, classes) := Text.splitLast '/' name
    ofSimpleNames (Text.join "." (Text.split '/' package)) (Text.split '.' classes)

end ClassName

namespace TypeName

/-- The characters of a text without the question marks at its end. -/
def dropQuestionMarks (text : List Char) : List Char :=
  (text.reverse.dropWhile (· == '?')).reverse

/-- The class type that a shorthand stands for: a dotted name, nullable if a question mark
follows it. -/
def ofShorthand (shorthand : String) : Except Error TypeName :=
  let chars := shorthand.toList
  (ClassName.bestGuess (String.ofList (dropQuestionMarks chars))).map
    (.classType · (chars.getLast? = some '?'))

end TypeName

end KotlinContract
