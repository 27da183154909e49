import Mathlib.Data.List.TakeWhile
import CafeSession.Capplet.App
import CafeSession.Files.Entries

namespace CafeSession.Capplet

open CafeSession.Files

namespace KeyFile

theorem entries_setString (keyFile : KeyFile) (key value : String) :
    (keyFile.setString key value).entries = stored key value keyFile.entries := by
  unfold setString stored
  split_ifs <;> rfl

@[simp] theorem getString_setString (keyFile : KeyFile) (key value : String) :
    (keyFile.setString key value).getString key = some value := by
  change lookup key (keyFile.setString key value).entries = some value
  rw [entries_setString, lookup_stored]

theorem getString_setString_of_ne (keyFile : KeyFile) {key other : String} (value : String)
    (different : other ≠ key) :
    (keyFile.setString key value).getString other = keyFile.getString other := by
  change lookup other (keyFile.setString key value).entries = lookup other keyFile.entries
  rw [entries_setString, lookup_stored_of_ne different]

end KeyFile

inductive Field where
  | hidden
  | enabled
  | name
  | comment
  | exec
  | delay
deriving DecidableEq

def SaveMask.has (mask : SaveMask) : Field → Bool
  | .hidden => mask.hidden
  | .enabled => mask.enabled
  | .name => mask.name
  | .comment => mask.comment
  | .exec => mask.exec
  | .delay => mask.delay

/-- The key of a translation. -/
def translated (key language : String) : String :=
  key ++ "[" ++ language ++ "]"

/-- The key without a language. -/
def stem (key : String) : List Char :=
  key.toList.takeWhile (fun char => char ≠ '[')

def encoded (language : String) : Bool :=
  language.toList.contains '.'

/-- The key that a text is written under. -/
def textKey (languages : List String) (key : String) : String :=
  ((languages.find? (fun language => !encoded language)).map (translated key)).getD key

def textKeys (languages : List String) (key : String) : List String :=
  [key, textKey languages key]

namespace Field

def key : Field → String
  | hidden => "Hidden"
  | enabled => KeyFile.keyEnabled
  | name => "Name"
  | comment => "Comment"
  | exec => "Exec"
  | delay => KeyFile.keyDelay

/-- The keys that a field is written under. -/
def keys (languages : List String) : Field → List String
  | name => textKeys languages name.key
  | comment => textKeys languages comment.key
  | field => [field.key]

/-- The part of a save for the bit of the field. -/
def write (languages : List String) (app : App) (keyFile : KeyFile) : Field → KeyFile
  | hidden => keyFile.setBoolean "Hidden" app.hidden
  | enabled => keyFile.setBoolean KeyFile.keyEnabled app.enabled
  | name => (keyFile.setLocaleString languages "Name" app.name).ensureCKey languages "Name"
  | comment =>
      (keyFile.setLocaleString languages "Comment" app.comment).ensureCKey languages "Comment"
  | exec => keyFile.setString "Exec" (app.exec.getD "")
  | delay => keyFile.setDelay app.delay

/-- The key file has the field as the app has it. -/
def Reads (languages : List String) (app : App) (keyFile : KeyFile) : Field → Prop
  | hidden => keyFile.getBoolean "Hidden" false = app.hidden
  | enabled => keyFile.getBoolean KeyFile.keyEnabled true = app.enabled
  | name => strEqual (keyFile.getLocaleString languages "Name") app.name = true
  | comment => strEqual (keyFile.getLocaleString languages "Comment") app.comment = true
  | exec => strEqual (keyFile.getString "Exec") app.exec = true
  | delay => keyFile.getDelay = app.delay

/-- In the order in which a save comes to them. -/
def all : List Field := [hidden, enabled, name, comment, exec, delay]

theorem mem_all (field : Field) : field ∈ all := by
  cases field <;> simp [all]

theorem all_nodup : all.Nodup := by decide

end Field

variable {app : App} {languages : List String}
variable {keyFile other : KeyFile} {field : Field} {key base : String}

theorem isDigit_toDigits (number : Nat) :
    ∀ digit ∈ Nat.toDigits 10 number, digit.isDigit = true :=
  fun _ member => Nat.isDigit_of_mem_toDigits (by decide) (by decide) member

/-- A digit is neither white space nor a sign. -/
theorem isDigit_plain {digit : Char} (isDigit : digit.isDigit = true) :
    KeyFile.isSpace digit = false ∧ digit ≠ '-' ∧ digit ≠ '+' := by
  refine ⟨?_, ?_, ?_⟩
  · by_contra space
    simp only [KeyFile.isSpace, KeyFile.isAsciiSpace, Bool.not_eq_false, Bool.or_eq_true,
      decide_eq_true_eq] at space
    rcases space with ((((rfl | rfl) | rfl) | rfl) | rfl) | rfl <;> cases isDigit
  · rintro rfl
    cases isDigit
  · rintro rfl
    cases isDigit

theorem strtol_toDigits (number : Nat) :
    KeyFile.strtol (Nat.toDigits 10 number) = ((number : Int), []) := by
  have digits := isDigit_toDigits number
  have value : Nat.ofDigitChars 10 (Nat.toDigits 10 number) 0 = number := by simp
  cases all : Nat.toDigits 10 number with
  | nil => exact absurd all Nat.toDigits_ne_nil
  | cons first rest =>
      rw [all] at digits value
      obtain ⟨noSpace, noMinus, noPlus⟩ := isDigit_plain (digits first List.mem_cons_self)
      have whole : (first :: rest).takeWhile Char.isDigit = first :: rest :=
        List.takeWhile_eq_self_iff.mpr digits
      have nothing : (first :: rest).dropWhile Char.isDigit = [] :=
        List.dropWhile_eq_nil_iff.mpr digits
      simp [KeyFile.strtol, noSpace, noMinus, noPlus, whole, nothing, value]

theorem strtol_minus (number : Nat) :
    KeyFile.strtol ('-' :: Nat.toDigits 10 number) = (-(number : Int), []) := by
  have digits := isDigit_toDigits number
  have value : Nat.ofDigitChars 10 (Nat.toDigits 10 number) 0 = number := by simp
  have whole : (Nat.toDigits 10 number).takeWhile Char.isDigit = Nat.toDigits 10 number :=
    List.takeWhile_eq_self_iff.mpr digits
  have nothing : (Nat.toDigits 10 number).dropWhile Char.isDigit = [] :=
    List.dropWhile_eq_nil_iff.mpr digits
  have sign : KeyFile.isSpace '-' = false := by decide
  simp [KeyFile.strtol, sign, whole, nothing, value, Nat.toDigits_ne_nil]

theorem parseInteger_toString {number : Int} (low : -2 ^ 31 ≤ number) (high : number < 2 ^ 31) :
    KeyFile.parseInteger (toString number) = some number := by
  have read : (toString number).toList ≠ [] ∧
      KeyFile.strtol (toString number).toList = (number, []) := by
    cases number with
    | ofNat number =>
        change (Nat.repr number).toList ≠ [] ∧ KeyFile.strtol (Nat.repr number).toList = _
        rw [Nat.toList_repr, strtol_toDigits]
        exact ⟨Nat.toDigits_ne_nil, rfl⟩
    | negSucc number =>
        change ("-" ++ Nat.repr (number + 1)).toList ≠ [] ∧
          KeyFile.strtol ("-" ++ Nat.repr (number + 1)).toList = _
        rw [String.toList_append, Nat.toList_repr]
        exact ⟨List.cons_ne_nil _ _, strtol_minus (number + 1)⟩
  have written : toString number ≠ "" := fun nothing => read.1 (by rw [nothing]; rfl)
  rw [KeyFile.parseInteger, read.2]
  exact (if_neg (by simpa using written)).trans (if_pos ⟨low, high⟩)

theorem ofInt_toInt32 (delay : UInt32) : UInt32.ofInt delay.toInt32.toInt = delay := by
  have signed : delay.toInt32.toInt = delay.toBitVec.toInt := rfl
  have width : delay.toBitVec.toNat = delay.toNat := rfl
  have := delay.toNat_lt
  apply UInt32.toNat_inj.mp
  rw [signed, UInt32.ofInt, BitVec.toInt_eq_toNat_cond, width]
  split_ifs <;> simp <;> omega

theorem getDelay_setDelay (keyFile : KeyFile) (delay : UInt32) :
    (keyFile.setDelay delay).getDelay = delay := by
  have number := parseInteger_toString (Int32.le_toInt delay.toInt32) (Int32.toInt_lt delay.toInt32)
  rw [KeyFile.getDelay, KeyFile.setDelay, KeyFile.getString_setString, Option.bind_some, number,
    Option.getD_some, ofInt_toInt32]

theorem stem_translated {key : String} (plain : stem key = key.toList) (language : String) :
    stem (translated key language) = key.toList := by
  have before : ∀ char ∈ key.toList, decide (char ≠ '[') = true := by
    rw [stem, List.takeWhile_eq_self_iff] at plain
    exact plain
  rw [stem, translated, String.toList_append, String.toList_append, String.toList_append,
    List.append_assoc, List.append_assoc, List.takeWhile_append_of_pos before]
  simp

theorem Field.stem_key (field : Field) : stem field.key = field.key.toList := by
  cases field <;> decide

theorem Field.key_injective {one other : Field} (same : one.key = other.key) : one = other := by
  revert same
  cases one <;> cases other <;> decide

theorem stem_of_mem_textKeys {base : String} (plain : stem base = base.toList)
    (member : key ∈ textKeys languages base) : stem key = base.toList := by
  rcases List.mem_cons.mp member with rfl | member
  · exact plain
  · obtain rfl := List.mem_singleton.mp member
    rw [textKey]
    cases languages.find? (fun language => !encoded language) with
    | none => exact plain
    | some language => exact stem_translated plain language

theorem Field.stem_of_mem_keys (member : key ∈ field.keys languages) :
    stem key = field.key.toList := by
  have plain := field.stem_key
  cases field with
  | name => exact stem_of_mem_textKeys plain member
  | comment => exact stem_of_mem_textKeys plain member
  | _ =>
      obtain rfl := List.mem_singleton.mp member
      exact plain

theorem setLocaleString_eq (value : Option String) :
    keyFile.setLocaleString languages base value =
      keyFile.setString (textKey languages base) (value.getD "") := by
  unfold KeyFile.setLocaleString textKey encoded
  cases languages.find? (fun language => !language.toList.contains '.') <;> rfl

theorem getString_ensureCKey (untouched : key ≠ base) :
    (keyFile.ensureCKey languages base).getString key = keyFile.getString key := by
  unfold KeyFile.ensureCKey
  split_ifs
  · split
    · exact KeyFile.getString_setString_of_ne _ _ untouched
    · rfl
  · rfl

theorem getString_writeText (value : Option String) (untouched : key ∉ textKeys languages base) :
    ((keyFile.setLocaleString languages base value).ensureCKey languages base).getString key =
      keyFile.getString key := by
  have apart : key ≠ base ∧ key ≠ textKey languages base := by simpa [textKeys] using untouched
  rw [getString_ensureCKey apart.1, setLocaleString_eq,
    KeyFile.getString_setString_of_ne _ _ apart.2]

/-- No key changes but those of the field. -/
theorem Field.write_other (untouched : key ∉ field.keys languages) :
    (field.write languages app keyFile).getString key = keyFile.getString key := by
  cases field with
  | name => exact getString_writeText app.name untouched
  | comment => exact getString_writeText app.comment untouched
  | _ => exact KeyFile.getString_setString_of_ne _ _ (by simpa [keys, Field.key] using untouched)

/-- The translation into a language that comes before the one that is written,
because of its encoding. -/
def encodedText (languages : List String) (keyFile : KeyFile) (base : String) : Option String :=
  (languages.takeWhile encoded).findSome?
    (fun language => keyFile.getString (translated base language))

/-- No such translation says anything else than the app. -/
def Field.Unhidden (languages : List String) (keyFile : KeyFile) (app : App) : Field → Prop
  | name => ∀ text, encodedText languages keyFile "Name" = some text →
      strEqual (some text) app.name = true
  | comment => ∀ text, encodedText languages keyFile "Comment" = some text →
      strEqual (some text) app.comment = true
  | _ => True

theorem strEqual_getD (value : Option String) : strEqual (some (value.getD "")) value = true := by
  simp [strEqual]

theorem translated_ne (base language : String) : translated base language ≠ base := by
  intro same
  have chars := congrArg String.toList same
  simp [translated] at chars

theorem translated_injective (base : String) : (translated base).Injective := by
  intro one other same
  have chars := congrArg String.toList same
  exact String.toList_injective (by simpa [translated] using chars)

/-- No text is written under the key of an earlier translation. -/
theorem translated_untouched {language : String} (before : language ∈ languages.takeWhile encoded) :
    translated base language ∉ textKeys languages base := by
  have isEncoded := List.mem_takeWhile_imp before
  rw [textKeys, List.mem_cons, List.mem_singleton, textKey]
  rintro (same | same)
  · exact translated_ne base language same
  · cases plain : languages.find? (fun language => !encoded language) with
    | none =>
        rw [plain] at same
        exact translated_ne base language same
    | some locale =>
        have notEncoded := List.find?_some plain
        rw [plain, Option.map_some, Option.getD_some] at same
        rw [translated_injective base same] at isEncoded
        simp [isEncoded] at notEncoded

theorem encodedText_congr
    (same : ∀ language ∈ languages.takeWhile encoded,
      other.getString (translated base language) = keyFile.getString (translated base language)) :
    encodedText languages other base = encodedText languages keyFile base := by
  simp only [encodedText]
  generalize languages.takeWhile encoded = front at same
  induction front with
  | nil => rfl
  | cons language front ih =>
      obtain ⟨here, rest⟩ := List.forall_mem_cons.mp same
      rw [List.findSome?_cons, List.findSome?_cons, here, ih rest]

theorem getLocaleString_encoded {text : String}
    (here : encodedText languages keyFile base = some text) :
    keyFile.getLocaleString languages base = some text := by
  have found : languages.findSome? (fun language => keyFile.getString (translated base language)) =
      some text := by
    rw [encodedText] at here
    rw [← List.takeWhile_append_dropWhile (p := encoded) (l := languages), List.findSome?_append,
      here]
    rfl
  rw [KeyFile.getLocaleString]
  simp only [translated] at found
  rw [found]

theorem getLocaleString_first {front back : List String} {locale value : String}
    (before : ∀ language ∈ front, keyFile.getString (translated base language) = none)
    (here : keyFile.getString (translated base locale) = some value) :
    keyFile.getLocaleString (front ++ locale :: back) base = some value := by
  have none : front.findSome? (fun language => keyFile.getString (translated base language)) =
    none := List.findSome?_eq_none_iff.mpr before
  have found : (front ++ locale :: back).findSome?
      (fun language => keyFile.getString (translated base language)) = some value := by
    rw [List.findSome?_append, none, List.findSome?_cons, here]
    rfl
  rw [KeyFile.getLocaleString]
  simp only [translated] at found
  rw [found]

theorem getLocaleString_untranslated
    (untranslated : ∀ language ∈ languages,
      keyFile.getString (translated base language) = none) :
    keyFile.getLocaleString languages base = keyFile.getString base := by
  have none : languages.findSome?
      (fun language => keyFile.getString (translated base language)) = none :=
    List.findSome?_eq_none_iff.mpr untranslated
  rw [KeyFile.getLocaleString]
  simp only [translated] at none
  rw [none]

/-- The plain key is set to what is read, if it is empty. -/
theorem getString_ensureCKey_base {value : String}
    (reads : keyFile.getLocaleString languages base = some value)
    (here : keyFile.getString base = some value) :
    (keyFile.ensureCKey languages base).getString base = some value := by
  unfold KeyFile.ensureCKey
  split_ifs
  · rw [reads]
    exact KeyFile.getString_setString _ _ _
  · exact here

theorem getLocaleString_writeText (value : Option String)
    (unencoded : ∀ language ∈ languages.takeWhile encoded,
      keyFile.getString (translated base language) = none) :
    strEqual (((keyFile.setLocaleString languages base value).ensureCKey languages
      base).getLocaleString languages base) value = true := by
  have kept (language : String) : ((keyFile.setLocaleString languages base value).ensureCKey
      languages base).getString (translated base language) =
        (keyFile.setLocaleString languages base value).getString (translated base language) :=
    getString_ensureCKey (translated_ne base language)
  have text : ((keyFile.setLocaleString languages base value).ensureCKey languages
      base).getLocaleString languages base = some (value.getD "") := by
    cases plain : languages.find? (fun language => !encoded language) with
    | none =>
        have all : languages.takeWhile encoded = languages := by
          rw [List.takeWhile_eq_self_iff]
          intro language member
          simpa using List.find?_eq_none.mp plain language member
        rw [all] at unencoded
        have set : keyFile.setLocaleString languages base value =
            keyFile.setString base (value.getD "") := by
          rw [setLocaleString_eq, textKey, plain]
          rfl
        have untranslated : ∀ language ∈ languages,
            (keyFile.setString base (value.getD "")).getString (translated base language) =
              none := by
          intro language member
          rw [KeyFile.getString_setString_of_ne _ _ (translated_ne base language)]
          exact unencoded language member
        have reads := getLocaleString_untranslated untranslated
        rw [KeyFile.getString_setString] at reads
        rw [getLocaleString_untranslated (fun language member => by
          rw [kept, set, untranslated language member]), set]
        exact getString_ensureCKey_base reads (KeyFile.getString_setString _ _ _)
    | some locale =>
        obtain ⟨isPlain, front, back, rfl, before⟩ := List.find?_eq_some_iff_append.mp plain
        have front_encoded : (front ++ locale :: back).takeWhile encoded = front := by
          rw [List.takeWhile_append_of_pos (by simpa using before)]
          simpa using isPlain
        rw [front_encoded] at unencoded
        have set : keyFile.setLocaleString (front ++ locale :: back) base value =
            keyFile.setString (translated base locale) (value.getD "") := by
          rw [setLocaleString_eq, textKey, plain]
          rfl
        refine getLocaleString_first (fun language member => ?_) ?_
        · have different : translated base language ≠ translated base locale := by
            intro same
            have encoding := before language member
            rw [translated_injective base same] at encoding
            simp_all
          rw [kept, set, KeyFile.getString_setString_of_ne _ _ different]
          exact unencoded language member
        · rw [kept, set, KeyFile.getString_setString]
  rw [text]
  exact strEqual_getD value

theorem writeText_reads_iff (value : Option String) :
    strEqual (((keyFile.setLocaleString languages base value).ensureCKey languages
        base).getLocaleString languages base) value = true ↔
      ∀ text, encodedText languages keyFile base = some text →
        strEqual (some text) value = true := by
  cases found : encodedText languages keyFile base with
  | none =>
      have unencoded := List.findSome?_eq_none_iff.mp found
      exact iff_of_true (getLocaleString_writeText value unencoded) nofun
  | some text =>
      have hides : encodedText languages ((keyFile.setLocaleString languages base value).ensureCKey
          languages base) base = some text := by
        rw [encodedText_congr (fun language before =>
          getString_writeText value (translated_untouched before)), found]
      rw [getLocaleString_encoded hides]
      simp

/-- A field reads back as it was written, unless its text is hidden. -/
theorem Field.write_reads_iff :
    field.Reads languages app (field.write languages app keyFile) ↔
      field.Unhidden languages keyFile app := by
  cases field with
  | hidden =>
      refine iff_of_true ?_ trivial
      cases value : app.hidden <;>
        simp [Reads, write, KeyFile.setBoolean, KeyFile.getBoolean, value] <;> rfl
  | enabled =>
      refine iff_of_true ?_ trivial
      cases value : app.enabled <;>
        simp [Reads, write, KeyFile.setBoolean, KeyFile.getBoolean, value] <;> rfl
  | name => exact writeText_reads_iff app.name
  | comment => exact writeText_reads_iff app.comment
  | exec => exact iff_of_true (by simp [Reads, write, strEqual_getD]) trivial
  | delay => exact iff_of_true (getDelay_setDelay keyFile app.delay) trivial

theorem getLocaleString_congr
    (plain : keyFile.getString base = other.getString base)
    (same : ∀ language, keyFile.getString (translated base language) =
      other.getString (translated base language)) :
    keyFile.getLocaleString languages base = other.getLocaleString languages base := by
  simp only [translated] at same
  simp only [KeyFile.getLocaleString, same, plain]

theorem getBoolean_congr {default : Bool} (plain : keyFile.getString base = other.getString base) :
    keyFile.getBoolean base default = other.getBoolean base default := by
  simp only [KeyFile.getBoolean, plain]

theorem Field.reads_congr
    (same : ∀ key, stem key = field.key.toList → keyFile.getString key = other.getString key) :
    field.Reads languages app keyFile ↔ field.Reads languages app other := by
  have plain := same _ field.stem_key
  have translations (language : String) := same _ (stem_translated field.stem_key language)
  cases field with
  | name => rw [Reads, Reads, @getLocaleString_congr languages _ _ "Name" plain translations]
  | comment => rw [Reads, Reads, @getLocaleString_congr languages _ _ "Comment" plain translations]
  | hidden => rw [Reads, Reads, @getBoolean_congr _ _ "Hidden" false plain]
  | enabled => rw [Reads, Reads, @getBoolean_congr _ _ KeyFile.keyEnabled true plain]
  | exec =>
      have exec : keyFile.getString "Exec" = other.getString "Exec" := plain
      rw [Reads, Reads, exec]
  | delay =>
      have delay : keyFile.getString KeyFile.keyDelay = other.getString KeyFile.keyDelay := plain
      rw [Reads, Reads, KeyFile.getDelay, KeyFile.getDelay, delay]

theorem Field.reads_write_of_ne {written : Field} (different : written ≠ field) :
    field.Reads languages app (written.write languages app keyFile) ↔
      field.Reads languages app keyFile := by
  apply Field.reads_congr
  intro key own
  apply Field.write_other
  intro member
  have same := (stem_of_mem_keys member).symm.trans own
  exact different (key_injective (String.toList_injective same))

/-- No field is written under the key of an earlier translation. -/
theorem encoded_untouched {language : String} (before : language ∈ languages.takeWhile encoded)
    (text : Field) (isText : text.keys languages = textKeys languages text.key) (field : Field) :
    translated text.key language ∉ field.keys languages := by
  intro member
  have same :=
    (Field.stem_of_mem_keys member).symm.trans (stem_translated text.stem_key language)
  obtain rfl := Field.key_injective (String.toList_injective same)
  rw [isText] at member
  exact translated_untouched before member

/-- What hides a text is not changed by edits. -/
theorem Field.unhidden_congr
    (same : ∀ key, (∀ field : Field, key ∉ field.keys languages) →
      other.getString key = keyFile.getString key) :
    field.Unhidden languages other app ↔ field.Unhidden languages keyFile app := by
  cases field with
  | name =>
      have texts : encodedText languages other "Name" = encodedText languages keyFile "Name" :=
        encodedText_congr (fun _ before => same _ (encoded_untouched before .name rfl))
      rw [Unhidden, Unhidden, texts]
  | comment =>
      have texts : encodedText languages other "Comment" =
          encodedText languages keyFile "Comment" :=
        encodedText_congr (fun _ before => same _ (encoded_untouched before .comment rfl))
      rw [Unhidden, Unhidden, texts]
  | _ => exact Iff.rfl

/-- Nothing is hidden where no language with an encoding comes first. -/
theorem Field.unhidden_of_plain (plain : languages.takeWhile encoded = []) :
    field.Unhidden languages keyFile app := by
  cases field <;> simp [Unhidden, encodedText, plain]

section Save

variable {environment : Environment} {disk : Disk} {mask : SaveMask} {fields : List Field}

/-- The fields of the mask are written one after the other. -/
def writeFields (languages : List String) (app : App) (mask : SaveMask) (fields : List Field)
    (keyFile : KeyFile) : KeyFile :=
  fields.foldl (fun keyFile field =>
    if mask.has field then field.write languages app keyFile else keyFile) keyFile

theorem App.editedKeyFile_eq : app.editedKeyFile environment disk =
    writeFields environment.languages app app.saveMask Field.all
      ((disk.load (app.oldSystemPath.getD app.path)).getD KeyFile.populate) := rfl

theorem writeFields_cons (field : Field) (fields : List Field) (keyFile : KeyFile) :
    writeFields languages app mask (field :: fields) keyFile =
      writeFields languages app mask fields
        (if mask.has field then field.write languages app keyFile else keyFile) := rfl

theorem writeFields_other
    (untouched : ∀ field, mask.has field = true → key ∉ field.keys languages) :
    (writeFields languages app mask fields keyFile).getString key = keyFile.getString key := by
  induction fields generalizing keyFile with
  | nil => rfl
  | cons field fields ih =>
      rw [writeFields_cons, ih]
      split_ifs with masked
      · exact Field.write_other (untouched field masked)
      · rfl

theorem writeFields_unwritten (unwritten : field ∈ fields → mask.has field = false) :
    field.Reads languages app (writeFields languages app mask fields keyFile) ↔
      field.Reads languages app keyFile := by
  induction fields generalizing keyFile with
  | nil => exact Iff.rfl
  | cons first fields ih =>
      rw [writeFields_cons, ih (fun member => unwritten (List.mem_cons_of_mem _ member))]
      split_ifs with masked
      · apply Field.reads_write_of_ne
        rintro rfl
        simp [unwritten (by simp)] at masked
      · exact Iff.rfl

theorem writeFields_reads_iff (distinct : fields.Nodup) (member : field ∈ fields)
    (masked : mask.has field = true) :
    field.Reads languages app (writeFields languages app mask fields keyFile) ↔
      field.Unhidden languages keyFile app := by
  induction fields generalizing keyFile with
  | nil => cases member
  | cons first fields ih =>
      obtain ⟨new, distinct⟩ := List.nodup_cons.mp distinct
      rw [writeFields_cons]
      rcases List.mem_cons.mp member with rfl | later
      · rw [if_pos masked, writeFields_unwritten (fun again => absurd again new)]
        exact Field.write_reads_iff
      · rw [ih distinct later]
        split_ifs
        · exact Field.unhidden_congr (fun key untouched => Field.write_other (untouched first))
        · exact Iff.rfl

/-- What a key file has when some fields were edited since the original: theirs
are as in the app, except those that are still to be saved. -/
structure OnlyEdited (languages : List String) (edited pending : SaveMask) (original : KeyFile)
    (app : App) (keyFile : KeyFile) : Prop where
  others : ∀ key, (∀ field, edited.has field = true → key ∉ field.keys languages) →
    keyFile.getString key = original.getString key
  values : ∀ field, edited.has field = true → pending.has field = false →
    field.Reads languages app keyFile

/-- A save writes what is pending, and it reads back where nothing hides it. -/
theorem OnlyEdited.write_iff {edited : SaveMask} {original : KeyFile}
    (basis : OnlyEdited languages edited mask original app keyFile)
    (within : ∀ field, mask.has field = true → edited.has field = true) :
    OnlyEdited languages edited {} original app
        (writeFields languages app mask Field.all keyFile) ↔
      ∀ field, mask.has field = true → field.Unhidden languages original app := by
  have start (field : Field) :
      field.Unhidden languages keyFile app ↔ field.Unhidden languages original app :=
    Field.unhidden_congr (fun key untouched => basis.others key (fun field _ => untouched field))
  constructor
  · intro only field masked
    rw [← start, ← writeFields_reads_iff Field.all_nodup field.mem_all masked]
    exact only.values field (within field masked) (by cases field <;> rfl)
  · intro unhidden
    constructor
    · intro key untouched
      rw [writeFields_other (fun field masked => untouched field (within field masked))]
      exact basis.others key untouched
    · intro field isEdited _
      cases masked : mask.has field with
      | true =>
          rw [writeFields_reads_iff Field.all_nodup field.mem_all masked, start]
          exact unhidden field masked
      | false =>
          rw [writeFields_unwritten (fun _ => masked)]
          exact basis.values field isEdited masked

end Save

end CafeSession.Capplet
