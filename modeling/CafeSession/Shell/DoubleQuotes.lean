import Mathlib.Data.List.Count
import CafeSession.Shell.Words

namespace CafeSession.Shell

variable {mode : Mode} {word : Option Bytes} {current text rest : Bytes} {argv : List Bytes}

/-- Between double quotes a backslash before the byte is lost. -/
def isEscapable (byte : UInt8) : Bool :=
  byte = newline || byte = dollar || byte = backquote || byte = doubleQuote || byte = backslash

/-- Each backslash is followed by a byte that it does not escape. -/
def backslashesStand : Bytes → Bool
  | [] => true
  | byte :: rest =>
      (byte != backslash || rest.head?.any (fun next => !isEscapable next)) && backslashesStand rest

def escapeDouble (text : Bytes) : Bytes :=
  text.flatMap (fun byte => if byte = doubleQuote then [backslash, doubleQuote] else [byte])

def doubleQuoted (text : Bytes) : Bytes :=
  doubleQuote :: escapeDouble text ++ [doubleQuote]

/-- Not all double quotes of the text are in what is read, or it ends with one and the
text does not. -/
def Escapes (current text : Bytes) (argv : List Bytes) : Prop :=
  argv.flatten.count doubleQuote < current.count doubleQuote + text.count doubleQuote ∨
  argv.flatten.getLast? = some doubleQuote ∧ text.getLast? = some backslash

theorem Escapes.prepend {front before : Bytes} (escapes : Escapes (current ++ front) text argv)
    (part : front.count doubleQuote ≤ before.count doubleQuote) :
    Escapes current (before ++ text) argv := by
  rcases escapes with fewer | ⟨last, ends⟩
  · left
    rw [List.count_append] at fewer ⊢
    omega
  · refine .inr ⟨last, ?_⟩
    rw [List.getLast?_append, ends]
    rfl

/-- What is read is one word, as long as the text only when nothing is lost of it. -/
def Stays (current text : Bytes) (argv : List Bytes) : Prop :=
  ∃ kept, argv = [current ++ kept] ∧ kept.length ≤ text.length ∧
    (kept.length = text.length → backslashesStand text = true)

theorem Stays.prepend {front before : Bytes} (stays : Stays (current ++ front) text argv)
    (part : front.length ≤ before.length)
    (stands : front.length = before.length → backslashesStand text = true →
      backslashesStand (before ++ text) = true) :
    Stays current (before ++ text) argv := by
  obtain ⟨kept, rfl, shorter, whole⟩ := stays
  refine ⟨front ++ kept, by rw [List.append_assoc], ?_, ?_⟩
  · rw [List.length_append, List.length_append]
    exact Nat.add_le_add part shorter
  · intro same
    rw [List.length_append, List.length_append] at same
    exact stands (by omega) (whole (by omega))

end CafeSession.Shell
