import CafeSession.Text.Digits

namespace CafeSession.Serial

open CafeSession.Text

structure TimeOfDay where
  seconds : Nat
  microseconds : Fin 1000000
deriving DecidableEq

/-- What a call may read: two random words, the process id and the clock. -/
structure Reading where
  rand1 : UInt32
  rand2 : UInt32
  pid : UInt32
  time : TimeOfDay
deriving DecidableEq

/-- The static variables. -/
structure Generator where
  sequence : Int
  rand1 : UInt32
  rand2 : UInt32
  pid : UInt32
  low : -1 ≤ sequence
  high : sequence < 10000

namespace Generator

def init : Generator := ⟨-1, 0, 0, 0, by omega, by omega⟩

/-- The words are drawn as long as the first one is zero. -/
def seed (generator : Generator) (reading : Reading) : Generator :=
  if generator.rand1 = 0 then
    { generator with rand1 := reading.rand1, rand2 := reading.rand2, pid := reading.pid }
  else
    generator

def count (generator : Generator) : Generator where
  sequence := (generator.sequence + 1).tmod 10000
  rand1 := generator.rand1
  rand2 := generator.rand2
  pid := generator.pid
  low := by
    have low := generator.low
    have rest := Int.tmod_nonneg 10000 (show 0 ≤ generator.sequence + 1 by omega)
    omega
  high := Int.tmod_lt_of_pos _ (by omega)

end Generator

/-- The fields one after the other: `"10%.04x%.04x%.10lu%.3u%.10lu%.4d"`. -/
def startupIdText (rand1 rand2 : UInt32) (time : TimeOfDay) (pid : UInt32) (sequence : Nat) :
    List Char :=
  ['1', '0'] ++ render 16 4 rand1.toNat ++ render 16 4 rand2.toNat ++ render 10 10 time.seconds ++
    render 10 3 time.microseconds ++ render 10 10 pid.toNat ++ render 10 4 sequence

/-- `csm_util_generate_startup_id`. -/
def generateStartupId (generator : Generator) (reading : Reading) : Generator × String :=
  let next := (generator.seed reading).count
  (next, .ofList (startupIdText next.rand1 next.rand2 reading.time next.pid next.sequence.toNat))

/-- The ids of the calls one after the other. -/
def generateAll : Generator → List Reading → List String
  | _, [] => []
  | generator, reading :: rest =>
      (generateStartupId generator reading).2 ::
        generateAll (generateStartupId generator reading).1 rest

variable {rand1 rand2 pid : UInt32} {time other : TimeOfDay} {sequence another : Nat}
variable {generator : Generator}

theorem length_render_sequence (small : sequence < 10000) :
    (render 10 4 sequence).length = 4 :=
  length_render_of_lt (by omega) (by omega) (by omega)

theorem length_render_pid (pid : UInt32) : (render 10 10 pid.toNat).length = 10 := by
  have bound := pid.toNat_lt
  exact length_render_of_lt (by omega) (by omega) (by omega)

theorem length_render_seconds (early : time.seconds < 10 ^ 10) :
    (render 10 10 time.seconds).length = 10 :=
  length_render_of_lt (by omega) (by omega) early

theorem startupIdText_injective (early : time.seconds < 10 ^ 10)
    (otherEarly : other.seconds < 10 ^ 10) (small : sequence < 10000) (anotherSmall : another < 10000)
    (same : startupIdText rand1 rand2 time pid sequence =
      startupIdText rand1 rand2 other pid another) : time = other ∧ sequence = another := by
  have seconds := length_render_seconds early
  have otherSeconds := length_render_seconds otherEarly
  unfold startupIdText at same
  simp only [List.append_assoc, List.append_cancel_left_eq] at same
  obtain ⟨sameSeconds, rest⟩ := List.append_inj same (seconds.trans otherSeconds.symm)
  simp only [← List.append_assoc] at rest
  obtain ⟨clock, sameSequence⟩ := List.append_inj' rest
    ((length_render_sequence small).trans (length_render_sequence anotherSmall).symm)
  have sameMicroseconds := List.append_cancel_right clock
  have values := render_injective sameSeconds
  have fractions := Fin.ext (render_injective sameMicroseconds)
  cases time
  cases other
  simp only at values fractions
  exact ⟨by rw [values, fractions], render_injective sameSequence⟩

theorem seed_of_ne {reading : Reading} (seeded : generator.rand1 ≠ 0) :
    generator.seed reading = generator :=
  if_neg seeded

theorem count_sequence (generator : Generator) :
    generator.count.sequence = (generator.sequence + 1) % 10000 := by
  have low := generator.low
  exact Int.tmod_eq_emod_of_nonneg (by omega)

/-- Once the words are drawn, an id is the words with the clock of its call and
the number of calls before it. -/
theorem getElem?_generateAll {readings : List Reading} {index : Nat} {id : String}
    (seeded : generator.rand1 ≠ 0) (made : (generateAll generator readings)[index]? = some id) :
    ∃ reading, readings[index]? = some reading ∧
      id = .ofList (startupIdText generator.rand1 generator.rand2 reading.time generator.pid
        ((generator.sequence + 1 + index) % 10000).toNat) := by
  induction readings generalizing generator index with
  | nil => simp [generateAll] at made
  | cons reading rest ih =>
      have counted := count_sequence generator
      have same : (generateStartupId generator reading).1 = generator.count := by
        rw [generateStartupId, seed_of_ne seeded]
      cases index with
      | zero =>
          refine ⟨reading, rfl, ?_⟩
          have first : (generateStartupId generator reading).2 = id := by
            simpa [generateAll] using made
          rw [← first, generateStartupId, seed_of_ne seeded]
          have sequence : generator.count.sequence =
              (generator.sequence + 1 + ((0 : Nat) : Int)) % 10000 := by omega
          rw [sequence]
          rfl
      | succ index =>
          rw [generateAll, same, List.getElem?_cons_succ] at made
          obtain ⟨later, read, text⟩ := ih (show generator.count.rand1 ≠ 0 from seeded) made
          refine ⟨later, read, ?_⟩
          have sequence : (generator.count.sequence + 1 + (index : Int)) % 10000 =
              (generator.sequence + 1 + ((index + 1 : Nat) : Int)) % 10000 := by omega
          rw [text, sequence]
          rfl

theorem length_generateAll (generator : Generator) (readings : List Reading) :
    (generateAll generator readings).length = readings.length := by
  induction readings generalizing generator with
  | nil => rfl
  | cons reading rest ih => exact congrArg (· + 1) (ih _)

/-- The words are drawn by the first call, so that it could as well have found them drawn. -/
theorem generateAll_init {first : Reading} (later : List Reading) (seeded : first.rand1 ≠ 0) :
    generateAll .init (first :: later) =
      generateAll ⟨-1, first.rand1, first.rand2, first.pid, by omega, by omega⟩ (first :: later) := by
  rw [generateAll, generateAll, generateStartupId, generateStartupId]
  simp [Generator.seed, Generator.init, seeded]

/-- Two calls of one process give the same id only with the same clock and numbers
that differ by a multiple of 10000. -/
theorem startupIds_repeat (first : Reading) (later : List Reading) (seeded : first.rand1 ≠ 0)
    (early : ∀ reading ∈ first :: later, reading.time.seconds < 10 ^ 10) {call again : Nat}
    {id : String} (made : (generateAll .init (first :: later))[call]? = some id)
    (repeated : (generateAll .init (first :: later))[again]? = some id) :
    ∃ reading rereading, (first :: later)[call]? = some reading ∧
      (first :: later)[again]? = some rereading ∧
      reading.time = rereading.time ∧ call % 10000 = again % 10000 := by
  rw [generateAll_init later seeded] at made repeated
  obtain ⟨reading, read, text⟩ := getElem?_generateAll seeded made
  obtain ⟨rereading, reread, retext⟩ := getElem?_generateAll seeded repeated
  have same := String.ofList_injective (text.symm.trans retext)
  obtain ⟨clock, numbers⟩ := startupIdText_injective
    (early reading (List.mem_of_getElem? read)) (early rereading (List.mem_of_getElem? reread))
    (by omega) (by omega) same
  exact ⟨reading, rereading, read, reread, clock, by omega⟩

/-- What every call reads while the clock stands still. -/
def standing : Reading := ⟨1, 2, 3, ⟨1700000000, 5⟩⟩

/-- The first call and the one ten thousand calls later give the same id. -/
theorem startupIds_repeat_wrapped :
    ∃ id, (generateAll .init (standing :: List.replicate 10000 standing))[0]? = some id ∧
      (generateAll .init (standing :: List.replicate 10000 standing))[10000]? = some id ∧
      ∃ reading rereading,
        (standing :: List.replicate 10000 standing)[0]? = some reading ∧
        (standing :: List.replicate 10000 standing)[10000]? = some rereading ∧
        reading.time = rereading.time ∧ 0 % 10000 = 10000 % 10000 := by
  obtain ⟨later, calls⟩ : ∃ later, later = List.replicate 10000 standing := ⟨_, rfl⟩
  have count : later.length = 10000 := calls ▸ List.length_replicate
  have every : ∀ reading ∈ standing :: later, reading = standing := by
    intro reading member
    rcases List.mem_cons.mp member with same | again
    · exact same
    · exact List.eq_of_mem_replicate (calls ▸ again)
  rw [← calls]
  clear calls
  have seeded : standing.rand1 ≠ 0 := by decide
  have length := length_generateAll .init (standing :: later)
  rw [List.length_cons, count] at length
  have reads {call : Nat} {id : String}
      (made : (generateAll .init (standing :: later))[call]? = some id) :
      id = .ofList (startupIdText 1 2 ⟨1700000000, 5⟩ 3 ((call : Int) % 10000).toNat) := by
    rw [generateAll_init _ seeded] at made
    obtain ⟨reading, read, text⟩ := getElem?_generateAll seeded made
    rw [every reading (List.mem_of_getElem? read), show (-1 + 1 + (call : Int)) = call by omega]
      at text
    exact text
  obtain ⟨id, made⟩ : ∃ id, (generateAll .init (standing :: later))[0]? = some id :=
    ⟨_, List.getElem?_eq_getElem (by omega)⟩
  obtain ⟨again, repeated⟩ : ∃ again, (generateAll .init (standing :: later))[10000]? = some again :=
    ⟨_, List.getElem?_eq_getElem (by omega)⟩
  have same : again = id := (reads repeated).trans (reads made).symm
  rw [same] at repeated
  exact ⟨id, made, repeated, startupIds_repeat standing _ seeded
    (fun reading member => every reading member ▸ by decide) made repeated⟩

def TimeOfDay.milliseconds (time : TimeOfDay) : Nat :=
  time.seconds * 1000 + time.microseconds / 1000

/-- The fourth address format and what comes after it: sixteen hex digits, the
milliseconds, the process id with its type, the sequence number. -/
def AsSpecified (time : TimeOfDay) (pid : UInt32) (sequence : Nat) (id : String) : Prop :=
  ∃ digits stamp process number : List Char,
    id.toList = ['1', '0'] ++ digits ++ stamp ++ ['1'] ++ process ++ number ∧
      digits.length = 16 ∧ (∀ digit ∈ digits, digit ∈ hexDigits) ∧
      stamp = render 10 13 time.milliseconds ∧ stamp.length = 13 ∧
      process = render 10 10 pid.toNat ∧ process.length = 10 ∧
      number = render 10 4 sequence ∧ number.length = 4

theorem AsSpecified.length {id : String} (specified : AsSpecified time pid sequence id) :
    id.length = 46 := by
  obtain ⟨digits, stamp, process, number, text, sixteen, _, _, thirteen, _, ten, _, four⟩ := specified
  rw [← String.length_toList, text]
  simp [sixteen, thirteen, ten, four]

/-- How many digits a field takes that has at least so many. -/
def fieldWidth (base least number : Nat) : Nat := max least (Nat.toDigits base number).length

/-- The words and the microseconds take the twenty digits that the sixteen hex
digits, the last three of the milliseconds and the type of the process id would
take; and the last fourteen digits of the clock read as milliseconds and a one. -/
def Aligned (rand1 rand2 : UInt32) (time : TimeOfDay) : Prop :=
  time.seconds < 10 ^ 10 ∧
    fieldWidth 16 4 rand1.toNat + fieldWidth 16 4 rand2.toNat +
      fieldWidth 10 3 time.microseconds = 20 ∧
    (time.seconds * 10 ^ fieldWidth 10 3 time.microseconds + time.microseconds) % 10 ^ 14 =
      10 * time.milliseconds + 1

theorem fieldWidth_eq (base least number : Nat) :
    fieldWidth base least number = (render base least number).length :=
  (length_render base least number).symm

/-- The digits of the clock. -/
def clockText (time : TimeOfDay) : List Char :=
  render 10 10 time.seconds ++ render 10 3 time.microseconds

theorem isDigit_clockText (time : TimeOfDay) :
    ∀ digit ∈ clockText time, digit.isDigit = true := by
  intro digit member
  rcases List.mem_append.mp member with seconds | microseconds
  · exact isDigit_render seconds
  · exact isDigit_render microseconds

theorem value_clockText (time : TimeOfDay) :
    value (clockText time) =
      time.seconds * 10 ^ fieldWidth 10 3 time.microseconds + time.microseconds := by
  rw [clockText, value_append, value_render, value_render, fieldWidth_eq]

theorem word_le (word : UInt32) : fieldWidth 16 4 word.toNat ≤ 8 := by
  have bound := word.toNat_lt
  rw [fieldWidth_eq]
  exact length_render_le (by omega) (by omega) (by omega) (by omega)

/-- A millisecond stamp takes its thirteen digits as long as the seconds take ten. -/
theorem length_stamp_iff (time : TimeOfDay) :
    (render 10 13 time.milliseconds).length = 13 ↔ time.seconds < 10 ^ 10 := by
  have bound := time.microseconds.isLt
  have least := width_le_length 10 13 time.milliseconds
  have fits : (render 10 13 time.milliseconds).length ≤ 13 ↔ time.milliseconds < 10 ^ 13 :=
    length_render_le_iff (by omega) (by omega)
  unfold TimeOfDay.milliseconds at *
  omega

theorem startupIdText_eq (rand1 rand2 : UInt32) (time : TimeOfDay) (pid : UInt32) (sequence : Nat) :
    startupIdText rand1 rand2 time pid sequence =
      ['1', '0'] ++ (render 16 4 rand1.toNat ++ render 16 4 rand2.toNat ++ clockText time) ++
        render 10 10 pid.toNat ++ render 10 4 sequence := by
  simp [startupIdText, clockText]

/-- Without the fields at its end the id is the two words and the clock. -/
theorem specified_iff (small : sequence < 10000) :
    AsSpecified time pid sequence (.ofList (startupIdText rand1 rand2 time pid sequence)) ↔
      ∃ digits : List Char, digits.length = 16 ∧ (∀ digit ∈ digits, digit ∈ hexDigits) ∧
        (render 10 13 time.milliseconds).length = 13 ∧
        render 16 4 rand1.toNat ++ render 16 4 rand2.toNat ++ clockText time =
          digits ++ (render 10 13 time.milliseconds ++ ['1']) := by
  unfold AsSpecified
  rw [String.toList_ofList, startupIdText_eq]
  constructor
  · intro ⟨digits, stamp, process, number, text, sixteen, hex, stampIs, thirteen, processIs, _,
      numberIs, _⟩
    subst stampIs processIs numberIs
    refine ⟨digits, sixteen, hex, thirteen, ?_⟩
    have shorter := List.append_cancel_right (List.append_cancel_right text)
    simp only [List.append_assoc, List.append_cancel_left_eq] at shorter ⊢
    exact shorter
  · intro ⟨digits, sixteen, hex, thirteen, text⟩
    refine ⟨digits, _, _, _, ?_, sixteen, hex, rfl, thirteen, rfl, length_render_pid pid, rfl,
      length_render_sequence small⟩
    rw [text]
    simp

theorem aligned_of_text {digits : List Char} (sixteen : digits.length = 16)
    (thirteen : (render 10 13 time.milliseconds).length = 13)
    (text : render 16 4 rand1.toNat ++ render 16 4 rand2.toNat ++ clockText time =
      digits ++ (render 10 13 time.milliseconds ++ ['1'])) : Aligned rand1 rand2 time := by
  have early := (length_stamp_iff time).mp thirteen
  have seconds := length_render_seconds early
  have lengths := congrArg List.length text
  have clockLength : (clockText time).length = 10 + fieldWidth 10 3 time.microseconds := by
    rw [clockText, List.length_append, seconds, fieldWidth_eq]
  simp only [List.length_append, List.length_singleton, sixteen, thirteen, clockLength,
    ← fieldWidth_eq] at lengths
  have first := word_le rand1
  have second := word_le rand2
  -- what the clock has before its last fourteen digits belongs to the sixteen
  rw [← List.take_append_drop ((clockText time).length - 14) (clockText time),
    ← List.append_assoc] at text
  have front : (render 16 4 rand1.toNat ++ render 16 4 rand2.toNat ++
      (clockText time).take ((clockText time).length - 14)).length = digits.length := by
    simp only [List.length_append, List.length_take, sixteen, ← fieldWidth_eq]
    omega
  have stamp := (List.append_inj text front).2
  have ending : value ((clockText time).drop ((clockText time).length - 14)) =
      value (clockText time) % 10 ^ 14 := value_drop (isDigit_clockText time) (by omega)
  rw [stamp, value_append, value_render, value_clockText] at ending
  refine ⟨early, by omega, ?_⟩
  rw [← ending, Nat.mul_comm]
  rfl

theorem text_of_aligned (aligned : Aligned rand1 rand2 time) :
    ∃ digits : List Char, digits.length = 16 ∧ (∀ digit ∈ digits, digit ∈ hexDigits) ∧
      (render 10 13 time.milliseconds).length = 13 ∧
      render 16 4 rand1.toNat ++ render 16 4 rand2.toNat ++ clockText time =
        digits ++ (render 10 13 time.milliseconds ++ ['1']) := by
  obtain ⟨early, widths, reads⟩ := aligned
  have thirteen := (length_stamp_iff time).mpr early
  have clockLength : (clockText time).length = 10 + fieldWidth 10 3 time.microseconds := by
    rw [clockText, List.length_append, length_render_seconds early, fieldWidth_eq]
  have first := word_le rand1
  have second := word_le rand2
  have digits := isDigit_clockText time
  have ending : value ((clockText time).drop ((clockText time).length - 14)) =
      value (clockText time) % 10 ^ 14 := value_drop digits (by omega)
  have stamp : (clockText time).drop ((clockText time).length - 14) =
      render 10 13 time.milliseconds ++ ['1'] := by
    apply eq_of_value_eq
    · exact fun digit member => digits digit (List.mem_of_mem_drop member)
    · intro digit member
      rcases List.mem_append.mp member with own | one
      · exact isDigit_render own
      · rw [List.mem_singleton.mp one]
        rfl
    · simp only [List.length_drop, List.length_append, List.length_singleton, thirteen]
      omega
    · rw [ending, value_clockText, reads, value_append, value_render, Nat.mul_comm]
      rfl
  refine ⟨render 16 4 rand1.toNat ++ render 16 4 rand2.toNat ++
    (clockText time).take ((clockText time).length - 14), ?_, ?_, thirteen, ?_⟩
  · simp only [List.length_append, List.length_take, ← fieldWidth_eq]
    omega
  · intro digit member
    rcases List.mem_append.mp member with words | clock
    · rcases List.mem_append.mp words with one | two
      · exact render_mem_hexDigits (by omega) (by omega) _ _ digit one
      · exact render_mem_hexDigits (by omega) (by omega) _ _ digit two
    · rcases List.mem_append.mp (List.mem_of_mem_take clock) with seconds | microseconds
      · exact render_mem_hexDigits (by omega) (by omega) _ _ digit seconds
      · exact render_mem_hexDigits (by omega) (by omega) _ _ digit microseconds
  · rw [← stamp, List.append_assoc _ _ (List.drop _ _), List.take_append_drop]

/-- A generated id has its format just when its fields happen to be aligned. -/
theorem generated_as_specified_iff (generator : Generator) (reading : Reading) :
    AsSpecified reading.time (generateStartupId generator reading).1.pid
        (generateStartupId generator reading).1.sequence.toNat
        (generateStartupId generator reading).2 ↔
      Aligned (generator.seed reading).rand1 (generator.seed reading).rand2 reading.time := by
  have counted := count_sequence (generator.seed reading)
  have small : (generateStartupId generator reading).1.sequence.toNat < 10000 := by
    change (generator.seed reading).count.sequence.toNat < 10000
    omega
  refine (specified_iff small).trans ⟨?_, text_of_aligned⟩
  intro ⟨digits, sixteen, _, thirteen, text⟩
  exact aligned_of_text sixteen thirteen text

/-- Two words of eight digits and microseconds of six give two characters too many. -/
theorem generated_too_long :
    ¬ AsSpecified ⟨1700000000, 123456⟩ 4242 0
      (generateStartupId .init ⟨3735928559, 305419896, 4242, ⟨1700000000, 123456⟩⟩).2 := by
  intro specified
  have length := specified.length
  revert length
  decide

end CafeSession.Serial
