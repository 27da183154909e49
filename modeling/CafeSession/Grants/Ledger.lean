import Mathlib.Data.List.Nodup

/-! # Ledgers of grants

A ledger lists who holds which token and what was granted with it.  A grant ends
when its token is revoked, or when its holder leaves.  A store keeps a ledger
when its objects, read one by one, are the records of the grants. -/

namespace CafeSession.Grants

structure Grant (Token Holder Right : Type*) where
  token : Token
  holder : Holder
  right : Right

abbrev Ledger (Token Holder Right : Type*) := List (Grant Token Holder Right)

namespace Ledger

variable {Token Holder Right : Type*} {ledger : Ledger Token Holder Right}
variable {entry : Grant Token Holder Right} {token : Token}

def tokens (ledger : Ledger Token Holder Right) : List Token := ledger.map Grant.token

def Live (token : Token) (ledger : Ledger Token Holder Right) : Prop := token ∈ ledger.tokens

def grant (entry : Grant Token Holder Right) (ledger : Ledger Token Holder Right) :
    Ledger Token Holder Right :=
  ledger ++ [entry]

def revoke [DecidableEq Token] (token : Token) (ledger : Ledger Token Holder Right) :
    Ledger Token Holder Right :=
  ledger.filter (fun entry => entry.token != token)

def leave [DecidableEq Holder] (holder : Holder) (ledger : Ledger Token Holder Right) :
    Ledger Token Holder Right :=
  ledger.filter (fun entry => entry.holder != holder)

theorem distinct_grant (distinct : ledger.tokens.Nodup) (fresh : ¬ ledger.Live entry.token) :
    (ledger.grant entry).tokens.Nodup := by
  unfold tokens grant
  rw [List.map_append]
  refine List.nodup_append.mpr ⟨distinct, List.nodup_singleton _, fun one member other last => ?_⟩
  rw [List.map_singleton, List.mem_singleton] at last
  rintro rfl
  exact fresh (last ▸ member)

theorem distinct_filter (distinct : ledger.tokens.Nodup) (keep : Grant Token Holder Right → Bool) :
    (tokens (ledger.filter keep)).Nodup :=
  distinct.sublist (List.filter_sublist.map _)

section

variable {Object Record : Type*} {read : Object → Record} {write : Grant Token Holder Right → Record}
variable {store : List Object}

def KeptBy (read : Object → Record) (write : Grant Token Holder Right → Record)
    (store : List Object) (ledger : Ledger Token Holder Right) : Prop :=
  store.map read = ledger.map write

theorem KeptBy.grant (kept : ledger.KeptBy read write store) {object : Object}
    (same : read object = write entry) :
    (ledger.grant entry).KeptBy read write (store ++ [object]) := by
  unfold KeptBy Ledger.grant at *
  rw [List.map_append, List.map_append, kept, List.map_singleton, List.map_singleton, same]

/-- Objects and grants are dropped together when the record decides. -/
theorem KeptBy.filter (kept : ledger.KeptBy read write store) {stays : Object → Bool}
    {holds : Grant Token Holder Right → Bool}
    (agree : ∀ object entry, read object = write entry → stays object = holds entry) :
    KeptBy read write (store.filter stays) (ledger.filter holds) := by
  induction store generalizing ledger with
  | nil =>
      cases ledger with
      | nil => rfl
      | cons entry ledger => cases kept
  | cons object store ih =>
      cases ledger with
      | nil => cases kept
      | cons entry ledger =>
          obtain ⟨same, rest⟩ := List.cons.inj kept
          have later := ih rest
          unfold KeptBy at later ⊢
          cases decision : holds entry with
          | true =>
              rw [List.filter_cons_of_pos ((agree object entry same).trans decision),
                List.filter_cons_of_pos decision, List.map_cons, List.map_cons, same, later]
          | false =>
              rw [List.filter_cons_of_neg (by simp [agree object entry same, decision]),
                List.filter_cons_of_neg (by simp [decision]), later]

/-- What some record decides, the store and the ledger answer alike. -/
theorem KeptBy.any (kept : ledger.KeptBy read write store) {asked : Object → Bool}
    {told : Grant Token Holder Right → Bool}
    (agree : ∀ object entry, read object = write entry → asked object = told entry) :
    store.any asked = ledger.any told := by
  induction store generalizing ledger with
  | nil =>
      cases ledger with
      | nil => rfl
      | cons entry ledger => cases kept
  | cons object store ih =>
      cases ledger with
      | nil => cases kept
      | cons entry ledger =>
          obtain ⟨same, rest⟩ := List.cons.inj kept
          rw [List.any_cons, List.any_cons, agree object entry same, ih rest]

end

end Ledger

end CafeSession.Grants
