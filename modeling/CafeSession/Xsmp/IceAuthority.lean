import CafeSession.Autostart.DesktopFile
import CafeSession.Files.Records

namespace CafeSession.Xsmp

open CafeSession.Autostart CafeSession.Files CafeSession.Shell

/-- `IceAuthFileEntry`. -/
structure IceAuthFileEntry where
  protocolName : Bytes
  protocolData : Bytes
  /-- `none` where the file has an empty text. -/
  networkId : Option Bytes
  authName : Bytes
  authData : Bytes
deriving DecidableEq

/-- A text that an entry can hold. -/
structure HasText (text : Bytes) : Prop where
  nonempty : text ≠ []
  short : text.length < 65536
  noNull : 0 ∉ text

structure IceAuthFileEntry.WellFormed (entry : IceAuthFileEntry) : Prop where
  protocolName : HasText entry.protocolName
  protocolData : entry.protocolData.length < 65536
  networkId : ∀ id ∈ entry.networkId, HasText id
  authName : HasText entry.authName
  authData : entry.authData.length < 65536

/-- How libICE writes an entry and reads it back. -/
abbrev EntryCodec := Codec UInt8 IceAuthFileEntry IceAuthFileEntry.WellFormed

/-- The connection string of a listening socket. -/
structure NetworkId where
  text : Bytes
  isText : HasText text

/-- What `IceGenerateMagicCookie (CSM_ICE_MAGIC_COOKIE_LEN)` makes. -/
structure MagicCookie where
  data : Bytes
  length : data.length = 16

inductive AuthFile where
  | present (content : Bytes)
  /-- It is there, but cannot be opened. -/
  | unreadable (content : Bytes)
  | missing (creatable : Bool)

/-- `auth_entry_new`. -/
def authEntryNew (protocol : Bytes) (id : NetworkId) (cookie : MagicCookie) : IceAuthFileEntry where
  protocolName := protocol
  protocolData := []
  networkId := some id.text
  authName := ascii "MIT-MAGIC-COOKIE-1"
  authData := cookie.data

/-- An entry of somebody else; one without a network id is invalid. -/
def keepsEntry (ids : List NetworkId) (entry : IceAuthFileEntry) : Bool :=
  match entry.networkId with
  | none => false
  | some networkId => !ids.any (fun own => networkId = own.text)

/-- What the reading loop keeps. -/
def readEntries (codec : EntryCodec) (ids : List NetworkId) (content : Bytes) :
    List IceAuthFileEntry :=
  (codec.readAll content).foldl
    (fun entries entry => if keepsEntry ids entry then entry :: entries else entries) []

/-- The new entries around those kept; the cookies are generated one after the other. -/
def addEntries (cookies : Nat → MagicCookie) :
    Nat → List NetworkId → List IceAuthFileEntry → List IceAuthFileEntry
  | _, [], entries => entries
  | made, id :: ids, entries =>
      addEntries cookies (made + 2) ids
        (authEntryNew (ascii "XSMP") id (cookies (made + 1)) ::
          (entries ++ [authEntryNew (ascii "ICE") id (cookies made)]))

/-- The entries that are written. -/
def entriesToWrite (codec : EntryCodec) (ids : List NetworkId) (cookies : Nat → MagicCookie)
    (adding : Bool) (content : Bytes) : List IceAuthFileEntry :=
  let kept := readEntries codec ids content
  if adding then addEntries cookies 0 ids kept else kept

/-- `update_iceauthority`: whether it succeeds, and the file after it. -/
def updateIceauthority (codec : EntryCodec) (ids : List NetworkId) (cookies : Nat → MagicCookie)
    (adding locked : Bool) (file : AuthFile) : Bool × AuthFile :=
  if !locked then (false, file)
  else match file with
    | .present content =>
        (true, .present (overwrite content
          (codec.encodeAll (entriesToWrite codec ids cookies adding content))))
    | .unreadable content => (false, .unreadable content)
    | .missing false => (false, .missing false)
    | .missing true =>
        (true, .present (codec.encodeAll (entriesToWrite codec ids cookies adding [])))

/-- An ICE and an XSMP entry for each socket, with the cookies made for them. -/
def ownEntries (cookies : Nat → MagicCookie) : Nat → List NetworkId → List IceAuthFileEntry
  | _, [] => []
  | made, id :: ids =>
      authEntryNew (ascii "ICE") id (cookies made) ::
        authEntryNew (ascii "XSMP") id (cookies (made + 1)) :: ownEntries cookies (made + 2) ids

def renewedEntries (ids : List NetworkId) (cookies : Nat → MagicCookie)
    (previous : List IceAuthFileEntry) : List IceAuthFileEntry :=
  ownEntries cookies 0 ids ++ previous.filter (keepsEntry ids)

/-- Reading the file again gives the new entries and those of others, each once,
and they are all there is in it. -/
def Renewed (codec : EntryCodec) (ids : List NetworkId) (cookies : Nat → MagicCookie)
    (previous : List IceAuthFileEntry) (file : AuthFile) : Prop :=
  ∃ content, file = .present content ∧ codec.Holds content (renewedEntries ids cookies previous)

variable {codec : EntryCodec} {ids : List NetworkId} {cookies : Nat → MagicCookie}
variable {previous : List IceAuthFileEntry}

theorem wellFormed_authEntryNew {protocol : Bytes} (isText : HasText protocol) (id : NetworkId)
    (cookie : MagicCookie) : (authEntryNew protocol id cookie).WellFormed := by
  constructor
  case protocolName => exact isText
  case protocolData => exact (by decide : (0 : Nat) < 65536)
  case networkId =>
    intro networkId same
    cases same
    exact id.isText
  case authName =>
    have cookieName : HasText (ascii "MIT-MAGIC-COOKIE-1") := ⟨by decide, by decide, by decide⟩
    exact cookieName
  case authData =>
    have length := cookie.length
    change cookie.data.length < 65536
    omega

theorem wellFormed_ownEntries (cookies : Nat → MagicCookie) (made : Nat) (ids : List NetworkId) :
    ∀ entry ∈ ownEntries cookies made ids, entry.WellFormed := by
  induction ids generalizing made with
  | nil => nofun
  | cons id ids ih =>
      have ice : HasText (ascii "ICE") := ⟨by decide, by decide, by decide⟩
      have xsmp : HasText (ascii "XSMP") := ⟨by decide, by decide, by decide⟩
      intro entry member
      rcases List.mem_cons.mp member with first | later
      · exact first ▸ wellFormed_authEntryNew ice id _
      rcases List.mem_cons.mp later with second | others
      · exact second ▸ wellFormed_authEntryNew xsmp id _
      · exact ih (made + 2) entry others

theorem addEntries_perm (cookies : Nat → MagicCookie) (made : Nat) (ids : List NetworkId)
    (entries : List IceAuthFileEntry) :
    (addEntries cookies made ids entries).Perm (ownEntries cookies made ids ++ entries) := by
  induction ids generalizing made entries with
  | nil => exact List.Perm.refl _
  | cons id ids ih =>
      have later := ih (made + 2) (authEntryNew (ascii "XSMP") id (cookies (made + 1)) ::
        (entries ++ [authEntryNew (ascii "ICE") id (cookies made)]))
      have last := (List.perm_append_singleton (authEntryNew (ascii "ICE") id (cookies made))
        (ownEntries cookies (made + 2) ids ++ entries)).cons
          (authEntryNew (ascii "XSMP") id (cookies (made + 1)))
      rw [List.append_assoc] at last
      exact later.trans (List.perm_middle.trans (last.trans (List.Perm.swap _ _ _)))

/-- Taking entries to the front leaves the same ones as a filter. -/
theorem foldl_keeps_perm (ids : List NetworkId) (entries kept : List IceAuthFileEntry) :
    (entries.foldl (fun entries entry => if keepsEntry ids entry then entry :: entries else entries)
      kept).Perm (entries.filter (keepsEntry ids) ++ kept) := by
  induction entries generalizing kept with
  | nil => exact List.Perm.refl _
  | cons entry entries ih =>
      rw [List.foldl_cons]
      cases keeps : keepsEntry ids entry with
      | true =>
          rw [List.filter_cons_of_pos keeps, if_pos rfl]
          exact (ih (entry :: kept)).trans List.perm_middle
      | false =>
          rw [List.filter_cons_of_neg (by simp [keeps]), if_neg (by simp)]
          exact ih kept

theorem readEntries_perm (good : ∀ entry ∈ previous, entry.WellFormed) :
    (readEntries codec ids (codec.encodeAll previous)).Perm (previous.filter (keepsEntry ids)) := by
  have kept := foldl_keeps_perm ids previous []
  rw [List.append_nil] at kept
  rwa [readEntries, codec.readAll_encodeAll good]

theorem entriesToWrite_perm (good : ∀ entry ∈ previous, entry.WellFormed) :
    (entriesToWrite codec ids cookies true (codec.encodeAll previous)).Perm
      (renewedEntries ids cookies previous) :=
  (addEntries_perm cookies 0 ids _).trans ((readEntries_perm good).append_left _)

theorem wellFormed_renewedEntries (good : ∀ entry ∈ previous, entry.WellFormed) :
    ∀ entry ∈ renewedEntries ids cookies previous, entry.WellFormed := by
  intro entry member
  rcases List.mem_append.mp member with own | kept
  · exact wellFormed_ownEntries cookies 0 ids entry own
  · exact good entry (List.mem_filter.mp kept).1

theorem wellFormed_entriesToWrite (good : ∀ entry ∈ previous, entry.WellFormed) :
    ∀ entry ∈ entriesToWrite codec ids cookies true (codec.encodeAll previous),
      entry.WellFormed := by
  intro entry member
  exact wellFormed_renewedEntries good entry ((entriesToWrite_perm good).mem_iff.mp member)

/-- A file that is made anew holds just the new entries. -/
theorem renewed_missing :
    Renewed codec ids cookies []
      (updateIceauthority codec ids cookies true true (.missing true)).2 := by
  have nothing : ∀ entry ∈ ([] : List IceAuthFileEntry), entry.WellFormed := nofun
  exact ⟨_, rfl, codec.holds_encodeAll (wellFormed_entriesToWrite nothing)
    (entriesToWrite_perm nothing)⟩

/-- The file is renewed just when the new entries take no less room than those it had. -/
theorem update_iceauthority_renews_iff (codec : EntryCodec) (ids : List NetworkId)
    (cookies : Nat → MagicCookie) (previous : List IceAuthFileEntry)
    (good : ∀ entry ∈ previous, entry.WellFormed) :
    Renewed codec ids cookies previous
        (updateIceauthority codec ids cookies true true (.present (codec.encodeAll previous))).2 ↔
      (codec.encodeAll previous).length ≤
        (codec.encodeAll (renewedEntries ids cookies previous)).length := by
  rw [← codec.holds_overwrite_iff (wellFormed_entriesToWrite good) (entriesToWrite_perm good)]
  constructor
  · intro ⟨content, same, holds⟩
    cases same
    exact holds
  · intro holds
    exact ⟨_, rfl, holds⟩

/-- A field after its length in two bytes. -/
def encodeField (field : Bytes) : Bytes :=
  UInt8.ofNat (field.length / 256) :: UInt8.ofNat (field.length % 256) :: field

def readField : Bytes → Option (Bytes × Bytes)
  | high :: low :: rest =>
      let length := high.toNat * 256 + low.toNat
      if length ≤ rest.length then some (rest.take length, rest.drop length) else none
  | _ => none

def encodeEntry (entry : IceAuthFileEntry) : Bytes :=
  encodeField entry.protocolName ++ encodeField entry.protocolData ++
    encodeField (entry.networkId.getD []) ++ encodeField entry.authName ++
      encodeField entry.authData

def readEntry (bytes : Bytes) : Option (IceAuthFileEntry × Bytes) :=
  (readField bytes).bind fun (protocolName, bytes) =>
    (readField bytes).bind fun (protocolData, bytes) =>
      (readField bytes).bind fun (networkId, bytes) =>
        (readField bytes).bind fun (authName, bytes) =>
          (readField bytes).map fun (authData, bytes) =>
            (⟨protocolName, protocolData, if networkId = [] then none else some networkId,
              authName, authData⟩, bytes)

theorem readField_encodeField {field : Bytes} (short : field.length < 65536) (rest : Bytes) :
    readField (encodeField field ++ rest) = some (field, rest) := by
  have high : (UInt8.ofNat (field.length / 256)).toNat = field.length / 256 := by
    rw [UInt8.toNat_ofNat']
    omega
  have low : (UInt8.ofNat (field.length % 256)).toNat = field.length % 256 := by
    rw [UInt8.toNat_ofNat']
    omega
  have length : field.length / 256 * 256 + field.length % 256 = field.length := by omega
  simp [readField, encodeField, high, low, length]

theorem readField_shorter {bytes field rest : Bytes} (read : readField bytes = some (field, rest)) :
    rest.length < bytes.length := by
  match bytes with
  | high :: low :: more =>
      simp only [readField] at read
      split_ifs at read
      cases read
      simp only [List.length_drop, List.length_cons]
      omega
  | [_] => cases read
  | [] => cases read

theorem readEntry_encodeEntry (entry : IceAuthFileEntry) (rest : Bytes) (good : entry.WellFormed) :
    readEntry (encodeEntry entry ++ rest) = some (entry, rest) := by
  have network : (entry.networkId.getD []).length < 65536 := by
    cases known : entry.networkId with
    | none => simp
    | some id => exact (good.networkId id known).short
  have same : (if entry.networkId.getD [] = [] then none else some (entry.networkId.getD [])) =
      entry.networkId := by
    cases known : entry.networkId with
    | none => simp
    | some id => simp [(good.networkId id known).nonempty]
  simp only [readEntry, encodeEntry, List.append_assoc,
    readField_encodeField good.protocolName.short, readField_encodeField good.protocolData,
    readField_encodeField network, readField_encodeField good.authName.short,
    readField_encodeField good.authData, Option.bind_some, Option.map_some, same]

theorem readEntry_shorter (bytes : Bytes) (entry : IceAuthFileEntry) (rest : Bytes)
    (read : readEntry bytes = some (entry, rest)) : rest.length < bytes.length := by
  obtain ⟨one, first, read⟩ := Option.bind_eq_some_iff.mp read
  obtain ⟨two, second, read⟩ := Option.bind_eq_some_iff.mp read
  obtain ⟨three, third, read⟩ := Option.bind_eq_some_iff.mp read
  obtain ⟨four, fourth, read⟩ := Option.bind_eq_some_iff.mp read
  obtain ⟨five, fifth, same⟩ := Option.map_eq_some_iff.mp read
  cases same
  have lengths := And.intro (readField_shorter first) (And.intro (readField_shorter second)
    (And.intro (readField_shorter third)
      (And.intro (readField_shorter fourth) (readField_shorter fifth))))
  omega

/-- The encoding of libICE: five fields, each after its length. -/
def iceCodec : EntryCodec where
  encode := encodeEntry
  read := readEntry
  read_nil := rfl
  read_encode := readEntry_encodeEntry
  shorter := readEntry_shorter

/-- The socket, the cookie and the entries of one run after another. -/
def socketId : NetworkId where
  text := ascii "local/host:@/tmp/.ICE-unix/42"
  isText := ⟨by decide, by decide, by decide⟩

def zeroCookie : MagicCookie := ⟨List.replicate 16 0, rfl⟩

def staleEntry : IceAuthFileEntry := authEntryNew (ascii "XSMP") socketId zeroCookie

theorem wellFormed_staleEntries (count : Nat) :
    ∀ entry ∈ List.replicate count staleEntry, entry.WellFormed := by
  intro entry member
  rw [List.eq_of_mem_replicate member]
  exact wellFormed_authEntryNew ⟨by decide, by decide, by decide⟩ socketId zeroCookie

theorem update_iceauthority_renews_one :
    Renewed iceCodec [socketId] (fun _ => zeroCookie) (List.replicate 1 staleEntry)
        (updateIceauthority iceCodec [socketId] (fun _ => zeroCookie) true true
          (.present (iceCodec.encodeAll (List.replicate 1 staleEntry)))).2 ↔
      (iceCodec.encodeAll (List.replicate 1 staleEntry)).length ≤
        (iceCodec.encodeAll (renewedEntries [socketId] (fun _ => zeroCookie)
          (List.replicate 1 staleEntry))).length :=
  update_iceauthority_renews_iff iceCodec [socketId] (fun _ => zeroCookie)
    (List.replicate 1 staleEntry) (wellFormed_staleEntries 1)

/-- Three stale entries leave bytes behind the two that take their place. -/
theorem stale_bytes_left :
    ¬ Renewed iceCodec [socketId] (fun _ => zeroCookie) (List.replicate 3 staleEntry)
      (updateIceauthority iceCodec [socketId] (fun _ => zeroCookie) true true
        (.present (iceCodec.encodeAll (List.replicate 3 staleEntry)))).2 := by
  intro ⟨content, same, holds⟩
  cases same
  have good := wellFormed_staleEntries 3
  have fits := (iceCodec.holds_overwrite_iff (wellFormed_entriesToWrite good)
    (entriesToWrite_perm good) _).mp holds
  revert fits
  decide +kernel

end CafeSession.Xsmp
