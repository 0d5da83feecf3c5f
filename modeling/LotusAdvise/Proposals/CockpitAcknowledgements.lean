import LotusAdvise.Foundations.Runs
import LotusAdvise.Foundations.Tables
import LotusAdvise.Proposals.Services
import Mathlib.Logic.Function.Basic

/-! # Cockpit acknowledgements

The latest acknowledgement of each action item, and the idempotency key of every save. The
in-memory repository leaves a save alone whose key is stored; the Postgres repository goes
on to replace the acknowledgement of the item, and never replaces its identifier.
-/

namespace LotusAdvise.Proposals

open Runs Tables

structure CockpitAcknowledgementRecord where
  acknowledgementId : String
  actionItemId : String
  actionItemVersion : ℕ
  acknowledgedBy : String
  acknowledgedAt : DateTime
  acknowledgementNote : Option String
  correlationId : Option String
  reasonJson : JsonObject
deriving DecidableEq

structure CockpitAcknowledgementIdempotencyRecord where
  idempotencyKey : String
  requestHash : String
  acknowledgementId : String
  actionItemId : String
  createdAt : DateTime
deriving DecidableEq

/-- The stored mapping of a key is the one that a save states. -/
def CockpitAcknowledgementIdempotencyRecord.SameRequest
    (existing idempotency : CockpitAcknowledgementIdempotencyRecord) : Prop :=
  existing.requestHash = idempotency.requestHash ∧
    existing.acknowledgementId = idempotency.acknowledgementId ∧
    existing.actionItemId = idempotency.actionItemId

instance (existing idempotency : CockpitAcknowledgementIdempotencyRecord) :
    Decidable (existing.SameRequest idempotency) :=
  inferInstanceAs (Decidable (_ ∧ _ ∧ _))

def acknowledgementKeyConflict : ProposalError :=
  .valueError "COCKPIT_ACKNOWLEDGEMENT_IDEMPOTENCY_KEY_CONFLICT"

/-- The acknowledgements of the in-memory repository. -/
structure AcknowledgementDicts where
  acknowledgements : String → Option CockpitAcknowledgementRecord
  idempotency : String → Option CockpitAcknowledgementIdempotencyRecord

namespace AcknowledgementDicts

def empty : AcknowledgementDicts := ⟨fun _ => none, fun _ => none⟩

variable (store : AcknowledgementDicts)

def getCockpitAcknowledgement (actionItemId : String) : Option CockpitAcknowledgementRecord :=
  store.acknowledgements actionItemId

def saveCockpitAcknowledgementWithIdempotency (acknowledgement : CockpitAcknowledgementRecord)
    (idempotency : CockpitAcknowledgementIdempotencyRecord) :
    Except ProposalError AcknowledgementDicts :=
  match store.idempotency idempotency.idempotencyKey with
  | some existing =>
    if existing.SameRequest idempotency then .ok store else .error acknowledgementKeyConflict
  | none => .ok
    { acknowledgements := Function.update store.acknowledgements acknowledgement.actionItemId
        (some acknowledgement)
      idempotency := Function.update store.idempotency idempotency.idempotencyKey
        (some idempotency) }

end AcknowledgementDicts

/-- `advisor_cockpit_acknowledgements` and `advisor_cockpit_acknowledgement_idempotency`. -/
structure AcknowledgementTables where
  acknowledgements : List CockpitAcknowledgementRecord
  idempotency : List CockpitAcknowledgementIdempotencyRecord

namespace AcknowledgementTables

def empty : AcknowledgementTables := ⟨[], []⟩

variable (store : AcknowledgementTables)

def getCockpitAcknowledgement (actionItemId : String) : Option CockpitAcknowledgementRecord :=
  lookup CockpitAcknowledgementRecord.actionItemId store.acknowledgements actionItemId

def getIdempotency (idempotencyKey : String) : Option CockpitAcknowledgementIdempotencyRecord :=
  lookup CockpitAcknowledgementIdempotencyRecord.idempotencyKey store.idempotency idempotencyKey

/-- The primary key of a stored acknowledgement. -/
def IdentifierUsed (acknowledgementId : String) : Prop :=
  ∃ stored ∈ store.acknowledgements, stored.acknowledgementId = acknowledgementId

instance (acknowledgementId : String) : Decidable (store.IdentifierUsed acknowledgementId) :=
  inferInstanceAs (Decidable (∃ stored ∈ store.acknowledgements, _))

/-- The conflict clause of the acknowledgement replaces every column but the primary key. -/
def mergeAcknowledgement (stored acknowledgement : CockpitAcknowledgementRecord) :
    CockpitAcknowledgementRecord :=
  { acknowledgement with acknowledgementId := stored.acknowledgementId }

/-- The row of an item is updated; a new row needs a primary key that is not in use. -/
def upsertAcknowledgement (acknowledgement : CockpitAcknowledgementRecord) :
    Except ProposalError (List CockpitAcknowledgementRecord) := do
  require (store.getCockpitAcknowledgement acknowledgement.actionItemId = none →
    ¬ store.IdentifierUsed acknowledgement.acknowledgementId)
    (.integrity "advisor_cockpit_acknowledgements_pkey")
  return upsertWith mergeAcknowledgement CockpitAcknowledgementRecord.actionItemId
    store.acknowledgements acknowledgement

def saveCockpitAcknowledgementWithIdempotency (acknowledgement : CockpitAcknowledgementRecord)
    (idempotency : CockpitAcknowledgementIdempotencyRecord) :
    Except ProposalError AcknowledgementTables := do
  let inserted := insertIfAbsent CockpitAcknowledgementIdempotencyRecord.idempotencyKey
    store.idempotency idempotency
  match lookup CockpitAcknowledgementIdempotencyRecord.idempotencyKey inserted
    idempotency.idempotencyKey with
  | none => .error (.lifecycle "COCKPIT_ACKNOWLEDGEMENT_IDEMPOTENCY_WRITE_FAILED")
  | some existing =>
    require (existing.SameRequest idempotency) acknowledgementKeyConflict
    let acknowledgements ← store.upsertAcknowledgement acknowledgement
    return { acknowledgements, idempotency := inserted }

section Saves

variable {store} {acknowledgement stored : CockpitAcknowledgementRecord}
  {idempotency existing : CockpitAcknowledgementIdempotencyRecord}

/-- The tables after a save whose key is stored for the same request, or for no request. -/
def upserted (store : AcknowledgementTables) (acknowledgement : CockpitAcknowledgementRecord)
    (idempotency : List CockpitAcknowledgementIdempotencyRecord) : AcknowledgementTables :=
  { acknowledgements := upsertWith mergeAcknowledgement CockpitAcknowledgementRecord.actionItemId
      store.acknowledgements acknowledgement
    idempotency }

theorem getCockpitAcknowledgement_upserted
    {rows : List CockpitAcknowledgementIdempotencyRecord} (actionItemId : String) :
    (store.upserted acknowledgement rows).getCockpitAcknowledgement actionItemId =
      if acknowledgement.actionItemId = actionItemId then
        some ((store.getCockpitAcknowledgement actionItemId).elim acknowledgement
          fun stored => mergeAcknowledgement stored acknowledgement)
      else store.getCockpitAcknowledgement actionItemId := by
  have hmerge : ∀ stored acknowledgement,
      (mergeAcknowledgement stored acknowledgement).actionItemId = acknowledgement.actionItemId :=
    fun _ _ => rfl
  exact lookup_upsertWith (fun stored row _ => hmerge stored row) actionItemId

theorem upsertAcknowledgement_eq : store.upsertAcknowledgement acknowledgement =
    if store.getCockpitAcknowledgement acknowledgement.actionItemId = none →
        ¬ store.IdentifierUsed acknowledgement.acknowledgementId then
      .ok (upsertWith mergeAcknowledgement CockpitAcknowledgementRecord.actionItemId
        store.acknowledgements acknowledgement)
    else .error (.integrity "advisor_cockpit_acknowledgements_pkey") := by
  unfold upsertAcknowledgement require
  split <;> rfl

theorem save_conflict
    (hkey : store.getIdempotency idempotency.idempotencyKey = some existing)
    (hsame : ¬ existing.SameRequest idempotency) :
    store.saveCockpitAcknowledgementWithIdempotency acknowledgement idempotency =
      .error acknowledgementKeyConflict := by
  have hlookup : lookup CockpitAcknowledgementIdempotencyRecord.idempotencyKey store.idempotency
    idempotency.idempotencyKey = some existing := hkey
  simp only [saveCockpitAcknowledgementWithIdempotency, lookup_insertIfAbsent, hlookup,
    Option.some_or, require_false hsame]
  rfl

theorem save_known
    (hkey : store.getIdempotency idempotency.idempotencyKey = some existing)
    (hsame : existing.SameRequest idempotency) :
    store.saveCockpitAcknowledgementWithIdempotency acknowledgement idempotency =
      if store.getCockpitAcknowledgement acknowledgement.actionItemId = none →
          ¬ store.IdentifierUsed acknowledgement.acknowledgementId then
        .ok (store.upserted acknowledgement store.idempotency)
      else .error (.integrity "advisor_cockpit_acknowledgements_pkey") := by
  have hlookup : lookup CockpitAcknowledgementIdempotencyRecord.idempotencyKey store.idempotency
    idempotency.idempotencyKey = some existing := hkey
  have hinsert : insertIfAbsent CockpitAcknowledgementIdempotencyRecord.idempotencyKey
      store.idempotency idempotency = store.idempotency := if_neg (by simp [hlookup])
  simp only [saveCockpitAcknowledgementWithIdempotency, hinsert, hlookup, require_true hsame,
    upsertAcknowledgement_eq]
  split <;> rfl

theorem save_new (hkey : store.getIdempotency idempotency.idempotencyKey = none) :
    store.saveCockpitAcknowledgementWithIdempotency acknowledgement idempotency =
      if store.getCockpitAcknowledgement acknowledgement.actionItemId = none →
          ¬ store.IdentifierUsed acknowledgement.acknowledgementId then
        .ok (store.upserted acknowledgement (store.idempotency ++ [idempotency]))
      else .error (.integrity "advisor_cockpit_acknowledgements_pkey") := by
  have hlookup : lookup CockpitAcknowledgementIdempotencyRecord.idempotencyKey store.idempotency
    idempotency.idempotencyKey = none := hkey
  have hinsert : insertIfAbsent CockpitAcknowledgementIdempotencyRecord.idempotencyKey
      store.idempotency idempotency = store.idempotency ++ [idempotency] := if_pos hlookup
  have hsame : idempotency.SameRequest idempotency := ⟨rfl, rfl, rfl⟩
  simp only [saveCockpitAcknowledgementWithIdempotency, hinsert, lookup_append, hlookup,
    Option.none_or, if_pos, require_true hsame, upsertAcknowledgement_eq]
  split <;> rfl

end Saves

end AcknowledgementTables

/-- The arguments of a save. -/
structure AcknowledgementSave where
  acknowledgement : CockpitAcknowledgementRecord
  idempotency : CockpitAcknowledgementIdempotencyRecord

/-- The two repositories, which receive the same saves. -/
structure AcknowledgementStores where
  inMemory : AcknowledgementDicts
  postgres : AcknowledgementTables

namespace AcknowledgementStores

def empty : AcknowledgementStores := ⟨.empty, .empty⟩

variable (stores : AcknowledgementStores)

/-- A save on both repositories; one that raises leaves its repository as it was. -/
def save (save : AcknowledgementSave) : Option AcknowledgementStores :=
  some
    { inMemory := (stores.inMemory.saveCockpitAcknowledgementWithIdempotency save.acknowledgement
        save.idempotency).toOption.getD stores.inMemory
      postgres := (stores.postgres.saveCockpitAcknowledgementWithIdempotency save.acknowledgement
        save.idempotency).toOption.getD stores.postgres }

/-- Both repositories return the same acknowledgement for every item. -/
def Agree : Prop :=
  ∀ actionItemId, stores.inMemory.getCockpitAcknowledgement actionItemId =
    stores.postgres.getCockpitAcknowledgement actionItemId

/-- A save with a stored key changes the acknowledgement of no item in either repository. -/
def KeyedOnce (save : AcknowledgementSave) (stores' : AcknowledgementStores) : Prop :=
  (stores.inMemory.idempotency save.idempotency.idempotencyKey ≠ none → ∀ actionItemId,
    stores'.inMemory.getCockpitAcknowledgement actionItemId =
      stores.inMemory.getCockpitAcknowledgement actionItemId) ∧
  (stores.postgres.getIdempotency save.idempotency.idempotencyKey ≠ none → ∀ actionItemId,
    stores'.postgres.getCockpitAcknowledgement actionItemId =
      stores.postgres.getCockpitAcknowledgement actionItemId)

/-- A save whose key is stored brings the acknowledgement that the item has, except perhaps for its
identifier; a save with a new key brings the identifier that the item has, or a new one. A save
with a stored key for an item without acknowledgement brings an identifier in use, and is refused. -/
def Consistent (save : AcknowledgementSave) (_ : AcknowledgementStores) : Prop :=
  match stores.postgres.getIdempotency save.idempotency.idempotencyKey,
    stores.postgres.getCockpitAcknowledgement save.acknowledgement.actionItemId with
  | some existing, some stored => existing.SameRequest save.idempotency →
    AcknowledgementTables.mergeAcknowledgement stored save.acknowledgement = stored
  | some existing, none => existing.SameRequest save.idempotency →
    stores.postgres.IdentifierUsed save.acknowledgement.acknowledgementId
  | none, some stored => stored.acknowledgementId = save.acknowledgement.acknowledgementId
  | none, none => ¬ stores.postgres.IdentifierUsed save.acknowledgement.acknowledgementId

section Steps

variable {stores} {stores' : AcknowledgementStores} {save : AcknowledgementSave}

/-- The repositories have the same keys and return the same acknowledgements. -/
structure Aligned (stores : AcknowledgementStores) : Prop where
  keys : ∀ idempotencyKey, stores.inMemory.idempotency idempotencyKey =
    stores.postgres.getIdempotency idempotencyKey
  agree : stores.Agree

/-- What a save leaves, by what is stored under its key. -/
inductive Saved (stores : AcknowledgementStores) (save : AcknowledgementSave) :
    AcknowledgementStores → Prop where
  | conflict {existing : CockpitAcknowledgementIdempotencyRecord}
    (key : stores.postgres.getIdempotency save.idempotency.idempotencyKey = some existing)
    (other : ¬ existing.SameRequest save.idempotency) : Saved stores save stores
  | known {existing : CockpitAcknowledgementIdempotencyRecord}
    (key : stores.postgres.getIdempotency save.idempotency.idempotencyKey = some existing)
    (same : existing.SameRequest save.idempotency) :
    Saved stores save
      { inMemory := stores.inMemory
        postgres :=
          if stores.postgres.getCockpitAcknowledgement save.acknowledgement.actionItemId = none →
              ¬ stores.postgres.IdentifierUsed save.acknowledgement.acknowledgementId then
            stores.postgres.upserted save.acknowledgement stores.postgres.idempotency
          else stores.postgres }
  | new (key : stores.postgres.getIdempotency save.idempotency.idempotencyKey = none) :
    Saved stores save
      { inMemory :=
          { acknowledgements := Function.update stores.inMemory.acknowledgements
              save.acknowledgement.actionItemId (some save.acknowledgement)
            idempotency := Function.update stores.inMemory.idempotency
              save.idempotency.idempotencyKey (some save.idempotency) }
        postgres :=
          if stores.postgres.getCockpitAcknowledgement save.acknowledgement.actionItemId = none →
              ¬ stores.postgres.IdentifierUsed save.acknowledgement.acknowledgementId then
            stores.postgres.upserted save.acknowledgement
              (stores.postgres.idempotency ++ [save.idempotency])
          else stores.postgres }

theorem saved_of_save (hs : stores.Aligned) (h : stores.save save = some stores') :
    Saved stores save stores' := by
  have hmemory := hs.keys save.idempotency.idempotencyKey
  obtain rfl := Option.some.inj h
  rw [AcknowledgementDicts.saveCockpitAcknowledgementWithIdempotency, hmemory]
  rcases hkey : stores.postgres.getIdempotency save.idempotency.idempotencyKey with _ | existing
  · rw [AcknowledgementTables.save_new hkey, getD_toOption_ite]
    exact .new hkey
  · by_cases hsame : existing.SameRequest save.idempotency
    · rw [AcknowledgementTables.save_known hkey hsame]
      simp only [getD_toOption_ite, if_pos hsame]
      exact .known hkey hsame
    · rw [AcknowledgementTables.save_conflict hkey hsame]
      simp only [if_neg hsame]
      exact .conflict hkey hsame

/-- The acknowledgements that an upsert of the Postgres repository leaves unchanged. -/
theorem upserted_get_eq_iff (rows : List CockpitAcknowledgementIdempotencyRecord) :
    (∀ actionItemId,
      (stores.postgres.upserted save.acknowledgement rows).getCockpitAcknowledgement actionItemId =
        stores.postgres.getCockpitAcknowledgement actionItemId) ↔
      ∃ stored, stores.postgres.getCockpitAcknowledgement save.acknowledgement.actionItemId =
        some stored ∧
        AcknowledgementTables.mergeAcknowledgement stored save.acknowledgement = stored := by
  constructor
  · intro h
    have hitem := h save.acknowledgement.actionItemId
    rw [AcknowledgementTables.getCockpitAcknowledgement_upserted, if_pos rfl] at hitem
    rcases hstored : stores.postgres.getCockpitAcknowledgement
      save.acknowledgement.actionItemId with _ | stored
    · rw [hstored] at hitem
      cases hitem
    · rw [hstored] at hitem
      exact ⟨stored, rfl, Option.some.inj hitem⟩
  · rintro ⟨stored, hstored, hmerge⟩ actionItemId
    rw [AcknowledgementTables.getCockpitAcknowledgement_upserted]
    split
    · next heq => rw [← heq, hstored, Option.elim_some, hmerge]
    · rfl

/-- When both repositories store an acknowledgement they agree on it exactly when the identifier of
a row that is replaced is the new one. -/
theorem upserted_agree_iff (hagree : stores.Agree)
    {rows : List CockpitAcknowledgementIdempotencyRecord}
    {keys : String → Option CockpitAcknowledgementIdempotencyRecord} :
    Agree
      { inMemory := ⟨Function.update stores.inMemory.acknowledgements
          save.acknowledgement.actionItemId (some save.acknowledgement), keys⟩
        postgres := stores.postgres.upserted save.acknowledgement rows } ↔
      ∀ stored, stores.postgres.getCockpitAcknowledgement save.acknowledgement.actionItemId =
        some stored → stored.acknowledgementId = save.acknowledgement.acknowledgementId := by
  unfold Agree AcknowledgementDicts.getCockpitAcknowledgement
  simp only [AcknowledgementTables.getCockpitAcknowledgement_upserted, Function.update_apply]
  constructor
  · intro h stored hstored
    have hitem := h save.acknowledgement.actionItemId
    rw [if_pos rfl, if_pos rfl, hstored, Option.elim_some] at hitem
    have hid := congrArg CockpitAcknowledgementRecord.acknowledgementId (Option.some.inj hitem)
    exact hid.symm
  · intro h actionItemId
    by_cases heq : actionItemId = save.acknowledgement.actionItemId
    · subst heq
      rw [if_pos rfl, if_pos rfl]
      rcases hstored : stores.postgres.getCockpitAcknowledgement
        save.acknowledgement.actionItemId with _ | stored
      · rfl
      · rw [Option.elim_some, AcknowledgementTables.mergeAcknowledgement, h stored hstored]
    · rw [if_neg heq, if_neg (Ne.symm heq)]
      exact hagree actionItemId

/-- From aligned repositories, a save is harmless exactly when it is consistent. -/
theorem Aligned.harmless_iff (hs : stores.Aligned) (h : stores.save save = some stores') :
    stores.KeyedOnce save stores' ∧ stores'.Agree ↔ stores.Consistent save stores' := by
  have hmemory := hs.keys save.idempotency.idempotencyKey
  unfold Consistent KeyedOnce
  cases saved_of_save hs h with
  | conflict key other =>
    refine iff_of_true ⟨⟨fun _ _ => rfl, fun _ _ => rfl⟩, hs.agree⟩ ?_
    rw [key]
    split
    · next heq _ => cases heq; exact fun hsame => absurd hsame other
    · next heq _ => cases heq; exact fun hsame => absurd hsame other
    · next heq _ => cases heq
    · next heq _ => cases heq
  | known key same =>
    rw [hmemory, key]
    rcases hrow : stores.postgres.getCockpitAcknowledgement
      save.acknowledgement.actionItemId with _ | stored
    · by_cases hused : stores.postgres.IdentifierUsed save.acknowledgement.acknowledgementId
      · -- the primary key is taken by another item: the transaction is rolled back
        rw [if_neg (fun h => h rfl hused)]
        exact iff_of_true ⟨⟨fun _ _ => rfl, fun _ _ => rfl⟩, hs.agree⟩ fun _ => hused
      · rw [if_pos (fun _ => hused)]
        refine iff_of_false (fun hkept => ?_) fun hsame => hused (hsame same)
        obtain ⟨stored, hstored, _⟩ := (upserted_get_eq_iff _).mp (hkept.1.2 (by simp))
        rw [hrow] at hstored
        cases hstored
    · rw [if_pos (by simp)]
      constructor
      · intro hkept _
        obtain ⟨other, hother, hmerge⟩ := (upserted_get_eq_iff _).mp (hkept.1.2 (by simp))
        rw [hrow] at hother
        rwa [Option.some.inj hother]
      · intro hmerge
        have hkept := (upserted_get_eq_iff stores.postgres.idempotency).mpr
          ⟨stored, hrow, hmerge same⟩
        exact ⟨⟨fun _ _ => rfl, fun _ => hkept⟩, fun item => (hs.agree item).trans (hkept item).symm⟩
  | new key =>
    rw [hmemory, key]
    rw [and_iff_right ⟨fun hne => absurd rfl hne, fun hne => absurd rfl hne⟩]
    rcases hrow : stores.postgres.getCockpitAcknowledgement
      save.acknowledgement.actionItemId with _ | stored
    · by_cases hused : stores.postgres.IdentifierUsed save.acknowledgement.acknowledgementId
      · rw [if_neg (fun h => h rfl hused)]
        refine iff_of_false (fun hagree => ?_) fun hunused => hunused hused
        have hitem : Function.update stores.inMemory.acknowledgements _
          (some save.acknowledgement) save.acknowledgement.actionItemId =
            stores.postgres.getCockpitAcknowledgement save.acknowledgement.actionItemId := hagree _
        rw [hrow, Function.update_self] at hitem
        cases hitem
      · rw [if_pos (fun _ => hused), upserted_agree_iff hs.agree, hrow]
        exact iff_of_true (fun _ hstored => by cases hstored) hused
    · rw [if_pos (by simp), upserted_agree_iff hs.agree, hrow]
      simp only [Option.some.injEq, forall_eq']

/-- A consistent save keeps the repositories aligned. -/
theorem Aligned.step (hs : stores.Aligned) (h : stores.save save = some stores')
    (hconsistent : stores.Consistent save stores') : stores'.Aligned := by
  refine ⟨?_, ((hs.harmless_iff h).mpr hconsistent).2⟩
  unfold Consistent at hconsistent
  cases saved_of_save hs h with
  | conflict => exact hs.keys
  | known key same =>
    intro idempotencyKey
    split
    · exact hs.keys idempotencyKey
    · exact hs.keys idempotencyKey
  | new key =>
    rw [key] at hconsistent
    intro idempotencyKey
    rw [if_pos (fun hrow => by rwa [hrow] at hconsistent)]
    have hlookup : lookup CockpitAcknowledgementIdempotencyRecord.idempotencyKey
      stores.postgres.idempotency save.idempotency.idempotencyKey = none := key
    show Function.update stores.inMemory.idempotency _ _ _ =
      lookup _ (stores.postgres.idempotency ++ [save.idempotency]) _
    rw [lookup_append, Function.update_apply]
    split
    · next heq => rw [heq, hlookup, Option.none_or, if_pos rfl]
    · next hne =>
      rw [if_neg (Ne.symm hne), Option.or_none]
      exact hs.keys idempotencyKey

end Steps

end AcknowledgementStores

/-- In a sequence of saves on both repositories, a save with a stored key changes no acknowledgement
and both return the same acknowledgements, exactly when every save is consistent with what the
Postgres repository stores. -/
theorem acknowledgements_iff (saves : List AcknowledgementSave) :
    EveryStep AcknowledgementStores.save
        (fun stores save stores' => stores.KeyedOnce save stores' ∧ stores'.Agree) .empty saves ↔
      EveryStep AcknowledgementStores.save AcknowledgementStores.Consistent .empty saves := by
  have hempty : AcknowledgementStores.empty.Aligned := ⟨fun _ => rfl, fun _ => rfl⟩
  exact everyStep_iff_of_invariant (fun _ _ _ hs hstep hq => hs.step hstep hq)
    (fun _ _ _ hs hstep => hs.harmless_iff hstep) hempty

namespace Sample

def acknowledge (version : ℕ) (minute : ℕ) (idempotencyKey : String) : AcknowledgementSave where
  acknowledgement :=
    { acknowledgementId := "ack_aci_001", actionItemId := "aci_001", actionItemVersion := version
      acknowledgedBy := "advisor_1", acknowledgedAt := clock minute, acknowledgementNote := none
      correlationId := none, reasonJson := [] }
  idempotency :=
    { idempotencyKey, requestHash := "sha256:" ++ idempotencyKey
      acknowledgementId := "ack_aci_001", actionItemId := "aci_001", createdAt := clock minute }

end Sample

/-- The acknowledgement of the first version is delivered again after that of the second. -/
def redeliveredAcknowledgement : List AcknowledgementSave :=
  [Sample.acknowledge 1 0 "key-1", Sample.acknowledge 2 1 "key-2", Sample.acknowledge 1 0 "key-1"]

/-- The first version is back in the Postgres repository, by a save whose key is stored. -/
theorem acknowledgements_redelivered : ¬ EveryStep AcknowledgementStores.save
    (fun stores save stores' => stores.KeyedOnce save stores' ∧ stores'.Agree) .empty
    redeliveredAcknowledgement := by
  intro h
  obtain ⟨stores, hrun⟩ : ∃ stores, run AcknowledgementStores.save .empty
      (redeliveredAcknowledgement.take 2) = some stores := ⟨_, rfl⟩
  obtain ⟨stores', hstep⟩ : ∃ stores', stores.save (Sample.acknowledge 1 0 "key-1") =
    some stores' := ⟨_, rfl⟩
  have hview : (run AcknowledgementStores.save .empty (redeliveredAcknowledgement.take 2)).map
      (fun stores => ((stores.postgres.getIdempotency "key-1").isSome,
        (stores.postgres.getCockpitAcknowledgement "aci_001").map (·.actionItemVersion),
        (stores.save (Sample.acknowledge 1 0 "key-1")).map fun stores' =>
          (stores'.postgres.getCockpitAcknowledgement "aci_001").map (·.actionItemVersion))) =
      some (true, some 2, some (some 1)) := by decide +kernel
  rw [hrun, Option.map_some, hstep, Option.some.injEq, Prod.mk.injEq, Prod.mk.injEq,
    Option.map_some, Option.some.injEq] at hview
  obtain ⟨hkey, hbefore, hafter⟩ := hview
  have hkept := everyStep_iff_prefixes.mp h _ _ ⟨[], rfl⟩ _ _ hrun hstep
  have hitem := hkept.1.2 (Option.isSome_iff_ne_none.mp hkey) "aci_001"
  rw [hitem, hbefore] at hafter
  cases hafter

end LotusAdvise.Proposals
