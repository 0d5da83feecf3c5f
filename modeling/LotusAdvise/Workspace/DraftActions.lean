import LotusAdvise.Workspace.Sessions

/-! # Draft actions

Trades and cash flows of a draft are edited by their workspace identifiers. An action either
changes the draft or fails with the reason.
-/

namespace LotusAdvise.Workspace

inductive WorkspaceDraftActionType where
  | addTrade
  | updateTrade
  | removeTrade
  | addCashFlow
  | updateCashFlow
  | removeCashFlow
  | replaceOptions
deriving DecidableEq

structure WorkspaceDraftActionRequest where
  actorId : String
  actionType : WorkspaceDraftActionType
  workspaceTradeId : Option String := none
  workspaceCashFlowId : Option String := none
  trade : Option JsonObject := none
  cashFlow : Option JsonObject := none
  options : Option JsonObject := none

/-- The reason of a `WorkspaceDraftActionError`. -/
abbrev DraftActionReason := String

section Items

variable {Item : Type} (idOf : Item → String)

/-- The first item with the identifier, changed. -/
def changeFirst (id : String) (change : Item → Item) (missing : DraftActionReason) :
    List Item → Except DraftActionReason (List Item)
  | [] => .error missing
  | item :: items =>
    if idOf item = id then .ok (change item :: items)
    else (changeFirst id change missing items).map (item :: ·)

/-- The items without those of the identifier, of which there must be one. -/
def removeItems (id : String) (missing : DraftActionReason) (items : List Item) :
    Except DraftActionReason (List Item) :=
  if (items.filter fun item => idOf item ≠ id).length = items.length then .error missing
  else .ok (items.filter fun item => idOf item ≠ id)

variable {idOf} {id : String} {change : Item → Item} {missing : DraftActionReason}
  {items items' : List Item}

theorem removeItems_eq_ok : removeItems idOf id missing items = .ok items' ↔
    (∃ item ∈ items, idOf item = id) ∧ items' = items.filter fun item => idOf item ≠ id := by
  have hkept : (items.filter fun item => idOf item ≠ id).length = items.length ↔
      ∀ item ∈ items, idOf item ≠ id := by
    simp [List.length_filter_eq_length_iff]
  unfold removeItems
  split
  · next h =>
    simp only [reduceCtorEq, false_iff, not_and]
    rintro ⟨item, hitem, hid⟩
    exact (hkept.mp h item hitem hid).elim
  · next h =>
    rw [hkept] at h
    push Not at h
    simp only [Except.ok.injEq, h, true_and]
    exact eq_comm

/-- The first item with the identifier is changed, and no other. -/
theorem changeFirst_eq_ok : changeFirst idOf id change missing items = .ok items' ↔
    ∃ before item after, items = before ++ item :: after ∧ (∀ other ∈ before, idOf other ≠ id) ∧
      idOf item = id ∧ items' = before ++ change item :: after := by
  induction items generalizing items' with
  | nil => simp [changeFirst]
  | cons first rest ih =>
    rw [changeFirst]
    split
    · next hfirst =>
      rw [Except.ok.injEq]
      constructor
      · rintro rfl
        exact ⟨[], first, rest, rfl, by simp, hfirst, rfl⟩
      · rintro ⟨before, item, after, hitems, hbefore, -, rfl⟩
        cases before with
        | nil =>
          cases hitems
          rfl
        | cons other before =>
          cases hitems
          exact absurd hfirst (hbefore first List.mem_cons_self)
    · next hfirst =>
      simp only [map_eq_ok, ih]
      constructor
      · rintro ⟨_, ⟨before, item, after, rfl, hbefore, hitem, rfl⟩, rfl⟩
        exact ⟨first :: before, item, after, rfl, List.forall_mem_cons.mpr ⟨hfirst, hbefore⟩,
          hitem, rfl⟩
      · rintro ⟨before, item, after, hitems, hbefore, hitem, rfl⟩
        cases before with
        | nil =>
          cases hitems
          exact absurd hitem hfirst
        | cons other before =>
          cases hitems
          exact ⟨_, ⟨before, item, after, rfl, (List.forall_mem_cons.mp hbefore).2, hitem, rfl⟩,
            rfl⟩

end Items

/-- A field that the action needs. -/
def requireField {A : Type} (field : Option A) (missing : DraftActionReason) :
    Except DraftActionReason A :=
  match field with
  | none => .error missing
  | some value => .ok value

theorem requireField_eq_ok {A : Type} {field : Option A} {missing : DraftActionReason} {value : A} :
    requireField field missing = .ok value ↔ field = some value := by
  cases field with
  | none => simp [requireField]
  | some other => simp [requireField]

section Handlers

variable (drawn : WorkspaceDrawn) (draft : WorkspaceDraftState)
  (request : WorkspaceDraftActionRequest)

def requireTrade : Except DraftActionReason JsonObject :=
  requireField request.trade "WORKSPACE_DRAFT_TRADE_REQUIRED"

def requireCashFlow : Except DraftActionReason JsonObject :=
  requireField request.cashFlow "WORKSPACE_DRAFT_CASH_FLOW_REQUIRED"

def requireWorkspaceTradeId : Except DraftActionReason String :=
  requireField request.workspaceTradeId "WORKSPACE_TRADE_ID_REQUIRED"

def requireWorkspaceCashFlowId : Except DraftActionReason String :=
  requireField request.workspaceCashFlowId "WORKSPACE_CASH_FLOW_ID_REQUIRED"

def addTradeDraft : Except DraftActionReason WorkspaceDraftState := do
  let trade ← requireTrade request
  return { draft with tradeDrafts := draft.tradeDrafts ++ [⟨drawn.draftItemId 0, trade⟩] }

/-- The item is looked up before the trade is required. -/
def updateTradeDraft : Except DraftActionReason WorkspaceDraftState := do
  let id ← requireWorkspaceTradeId request
  let tradeDrafts ← changeFirst WorkspaceTradeDraft.workspaceTradeId id
    (fun item => { item with trade := request.trade.getD item.trade }) "WORKSPACE_TRADE_NOT_FOUND"
    draft.tradeDrafts
  let _ ← requireTrade request
  return { draft with tradeDrafts }

def removeTradeDraft : Except DraftActionReason WorkspaceDraftState := do
  let id ← requireWorkspaceTradeId request
  let tradeDrafts ← removeItems WorkspaceTradeDraft.workspaceTradeId id "WORKSPACE_TRADE_NOT_FOUND"
    draft.tradeDrafts
  return { draft with tradeDrafts }

def addCashFlowDraft : Except DraftActionReason WorkspaceDraftState := do
  let cashFlow ← requireCashFlow request
  return { draft with cashFlowDrafts := draft.cashFlowDrafts ++ [⟨drawn.draftItemId 0, cashFlow⟩] }

def updateCashFlowDraft : Except DraftActionReason WorkspaceDraftState := do
  let id ← requireWorkspaceCashFlowId request
  let cashFlowDrafts ← changeFirst WorkspaceCashFlowDraft.workspaceCashFlowId id
    (fun item => { item with cashFlow := request.cashFlow.getD item.cashFlow })
    "WORKSPACE_CASH_FLOW_NOT_FOUND" draft.cashFlowDrafts
  let _ ← requireCashFlow request
  return { draft with cashFlowDrafts }

def removeCashFlowDraft : Except DraftActionReason WorkspaceDraftState := do
  let id ← requireWorkspaceCashFlowId request
  let cashFlowDrafts ← removeItems WorkspaceCashFlowDraft.workspaceCashFlowId id
    "WORKSPACE_CASH_FLOW_NOT_FOUND" draft.cashFlowDrafts
  return { draft with cashFlowDrafts }

def replaceOptions : Except DraftActionReason WorkspaceDraftState := do
  let options ← requireField request.options "WORKSPACE_DRAFT_OPTIONS_REQUIRED"
  return { draft with options }

def applyWorkspaceDraftActionToState : Except DraftActionReason WorkspaceDraftState :=
  match request.actionType with
  | .addTrade => addTradeDraft drawn draft request
  | .updateTrade => updateTradeDraft draft request
  | .removeTrade => removeTradeDraft draft request
  | .addCashFlow => addCashFlowDraft drawn draft request
  | .updateCashFlow => updateCashFlowDraft draft request
  | .removeCashFlow => removeCashFlowDraft draft request
  | .replaceOptions => replaceOptions draft request

/-- `apply_draft_action`, up to its first save. -/
def draftChanged (session : WorkspaceSession) : Except WorkspaceError WorkspaceSession := do
  let draftState ← (applyWorkspaceDraftActionToState drawn session.draftState request).mapError
    .notFound
  return { session with draftState }

end Handlers

end LotusAdvise.Workspace
