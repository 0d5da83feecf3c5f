import LotusAdvise.AdvisoryCopilot.RunPersistence
import LotusAdvise.Foundations.Base64
import LotusAdvise.Foundations.Durations
import LotusAdvise.Foundations.JsonStrings
import LotusAdvise.Foundations.KeysetWalk
import Mathlib.Data.List.DropRight
import Mathlib.Data.List.Sort
import Mathlib.Data.Prod.Lex

/-! # Pages of copilot runs

The runs of a proposal version are listed with the latest first, page by page. A cursor names the
last run of a page by its time and its identifier. In memory the times are compared as date-times,
in the database as texts; for times in UTC this is the same order.
-/

namespace LotusAdvise.AdvisoryCopilot

open KeysetWalk Pagination Tables

structure AdvisoryCopilotRunCursor where
  createdAt : DateTime
  runId : String

/-- What the standard library makes of texts in other forms than those that cursors have. -/
structure CursorReaders where
  /-- `bytes.decode("utf-8")`, where not all bytes are ASCII. -/
  utf8 : List ℕ → Option String
  /-- `json.loads` of what is no compact object of two texts. -/
  loads : String → Option Json
  /-- `datetime.fromisoformat` of what is no text of a date-time in UTC. -/
  fromisoformat : String → Option DateTime

section Cursors

variable (readers : CursorReaders)

def decodeUtf8 (bytes : List ℕ) : Option String :=
  if ∀ byte ∈ bytes, byte < 128 then some (String.ofList (bytes.map Char.ofNat))
  else readers.utf8 bytes

def loads (text : String) : Option Json :=
  match JsonStrings.readTextPair text.toList with
  | some (first, second) =>
    some (.obj (JsonObject.set [(first.1, .str first.2)] second.1 (.str second.2)))
  | none => readers.loads text

def fromisoformat (text : String) : Option DateTime :=
  (DateTime.ofUtcIsoformat? text).or (readers.fromisoformat text)

def encodeCopilotRunCursor (run : AdvisoryCopilotRunRecord) : String :=
  let payload := JsonStrings.writeTextPair ("created_at", run.createdAt.isoformat)
    ("run_id", run.runId)
  String.ofList ((Base64.encode true true (payload.map Char.toNat)).rdropWhile (· = '='))

def decodeCursorJson (cursor : String) : Option String :=
  let padded := cursor.toList ++ Base64.padding cursor.toList.length
  if padded.all fun c => c.toNat < 128 then
    (Base64.decodeLenient (padded.map Base64.standardSymbol)).bind (decodeUtf8 readers)
  else none

def decodeCursorPayload (cursor : String) : Option JsonObject :=
  match (decodeCursorJson readers cursor).bind (loads readers) with
  | some (.obj payload) => some payload
  | _ => none

def cursorPayloadValue (payload : JsonObject) (key : String) : Option String :=
  match JsonObject.get payload key with
  | .str value => some value
  | _ => none

def parseCursorCreatedAt (rawCreatedAt : String) : Option DateTime :=
  (fromisoformat readers rawCreatedAt).filter fun createdAt => createdAt.utcOffset.isSome

def normalizeCursorRunId (rawRunId : String) : Option String :=
  if Text.strip rawRunId = "" then none else some (Text.strip rawRunId)

def readCursor (cursor : String) : Option AdvisoryCopilotRunCursor := do
  let payload ← decodeCursorPayload readers cursor
  let createdAt ← (cursorPayloadValue payload "created_at").bind (parseCursorCreatedAt readers)
  let runId ← (cursorPayloadValue payload "run_id").bind normalizeCursorRunId
  return { createdAt, runId }

/-- Every failure is reported as the same error. -/
def decodeCopilotRunCursor : Option String → Except String (Option AdvisoryCopilotRunCursor)
  | none => .ok none
  | some cursor =>
    match readCursor readers cursor with
    | none => .error "COPILOT_RUN_CURSOR_INVALID"
    | some decoded => .ok (some decoded)

end Cursors

section Keys

/-- `(run.created_at, run.run_id)`. -/
def runKey (run : AdvisoryCopilotRunRecord) : ℤ ×ₗ String :=
  toLex (run.createdAt.instant, run.runId)

def AdvisoryCopilotRunCursor.key (cursor : AdvisoryCopilotRunCursor) : ℤ ×ₗ String :=
  toLex (cursor.createdAt.instant, cursor.runId)

def runIsAfterCursor (run : AdvisoryCopilotRunRecord) : Option AdvisoryCopilotRunCursor → Bool
  | none => true
  | some cursor => runKey run < cursor.key

end Keys

structure CopilotRunFilters where
  proposalId : String
  proposalVersionId : Option String
  proposalVersionNo : Option ℤ

/-- How other values of a lineage compare with a number, and what `->>` makes of them. -/
structure LineageReaders where
  /-- A floating-point number is equal to an integer. -/
  floatEquals : String → ℤ → Bool
  /-- The text of a floating-point number, an array or an object in a `jsonb` column. -/
  jsonbText : Json → String

section Listing

variable (cursors : CursorReaders) (lineages : LineageReaders) (filters : CopilotRunFilters)

/-- `value == number`. -/
def equalsNumber (value : Json) (number : ℤ) : Bool :=
  match value with
  | .int n => n = number
  | .bool b => (if b then 1 else 0) = number
  | .float repr => lineages.floatEquals repr number
  | _ => false

def matchesProposalVersion (run : AdvisoryCopilotRunRecord) : Bool :=
  match filters.proposalVersionId, filters.proposalVersionNo with
  | some versionId, _ => JsonObject.get run.lineageJson "proposal_version_id" = .str versionId
  | none, some versionNo =>
    equalsNumber lineages (JsonObject.get run.lineageJson "proposal_version_no") versionNo
  | none, none => true

/-- The filters of the repository in memory, besides the cursor. -/
def matchesRun (run : AdvisoryCopilotRunRecord) : Bool :=
  run.proposalId = some filters.proposalId && matchesProposalVersion lineages filters run

def copilotRunPage (runs : List AdvisoryCopilotRunRecord) (limit : ℕ) :
    List AdvisoryCopilotRunRecord × Option String :=
  (runs.take limit,
    if limit < runs.length then (runs.take limit).getLast?.map encodeCopilotRunCursor else none)

def InMemoryCopilotRepository.listRunsForProposalVersion (repository : InMemoryCopilotRepository)
    (limit : ℕ) (cursor : Option String) :
    Except String (List AdvisoryCopilotRunRecord × Option String) :=
  (decodeCopilotRunCursor cursors cursor).map fun decoded =>
    let matched := repository.runs.filter fun run =>
      matchesRun lineages filters run && runIsAfterCursor run decoded
    copilotRunPage (matched.insertionSort fun a b => runKey b ≤ runKey a) limit

/-- `->>` of a `jsonb` value; the text of `null` is missing. -/
def jsonbText : Json → Option String
  | .null => none
  | .bool b => some (if b then "true" else "false")
  | .int n => some (toString n)
  | .str text => some text
  | value => some (lineages.jsonbText value)

/-- The clauses of the query, besides the cursor. -/
def matchesRow (run : AdvisoryCopilotRunRecord) : Bool :=
  run.proposalId = some filters.proposalId &&
    match filters.proposalVersionId, filters.proposalVersionNo with
    | some versionId, _ =>
      jsonbText lineages (JsonObject.get run.lineageJson "proposal_version_id") = some versionId
    | none, some versionNo => jsonbText lineages
        (JsonObject.get run.lineageJson "proposal_version_no") = some (toString versionNo)
    | none, none => true

/-- The order of texts by their bytes, which is that of their characters. -/
abbrev bytewise : LinearOrder String := inferInstance

/-- The column that holds the time of a run. -/
def createdAtText (run : AdvisoryCopilotRunRecord) : String := run.createdAt.isoformat

/-- `created_at < %s OR (created_at = %s AND run_id < %s)`. -/
def rowIsAfterCursor (run : AdvisoryCopilotRunRecord) : Option AdvisoryCopilotRunCursor → Bool
  | none => true
  | some cursor => createdAtText run < cursor.createdAt.isoformat ∨
      createdAtText run = cursor.createdAt.isoformat ∧ run.runId < cursor.runId

def PostgresCopilotTables.listRunsForProposalVersion (tables : PostgresCopilotTables) (limit : ℕ)
    (cursor : Option String) : Except String (List AdvisoryCopilotRunRecord × Option String) :=
  (decodeCopilotRunCursor cursors cursor).map fun decoded =>
    let rows := orderByDesc bytewise createdAtText AdvisoryCopilotRunRecord.runId
      (tables.runs.filter fun run =>
        matchesRow lineages filters run && rowIsAfterCursor run decoded)
    copilotRunPage (rows.take (limit + 1)) limit

end Listing

section Codec

/-- The time is in UTC, and the identifier is neither blank nor padded. -/
structure Listable (run : AdvisoryCopilotRunRecord) : Prop where
  utc : run.createdAt.utcOffset = some 0
  trimmed : Text.strip run.runId = run.runId
  nonblank : run.runId ≠ ""

variable {readers : CursorReaders} {run : AdvisoryCopilotRunRecord}

theorem rdropWhile_padding (ns : List ℕ) (h : ∀ n ∈ ns, n < 64) (length : ℕ) :
    (ns.map (Base64.symbol true) ++ Base64.padding length).rdropWhile (· = '=') =
      ns.map (Base64.symbol true) := by
  have hpadding : ∀ c ∈ Base64.padding length, decide (c = '=') = true :=
    fun c hc => decide_eq_true (List.eq_of_mem_replicate hc)
  have hsymbols : ∀ c ∈ ns.map (Base64.symbol true), decide (c = '=') = false := by
    rw [List.forall_mem_map]
    exact fun n hn => decide_eq_false (Base64.symbol_ne_pad (h n hn))
  rw [List.rdropWhile, List.reverse_append, List.dropWhile_append_of_pos]
  · rcases hlast : (ns.map (Base64.symbol true)).reverse with _ | ⟨c, cs⟩
    · rw [List.reverse_eq_nil_iff.mp hlast]
      rfl
    · have hc := hsymbols c (List.mem_reverse.mp (hlast ▸ List.mem_cons_self))
      rw [List.dropWhile_cons_of_neg (by simp [hc]), ← hlast, List.reverse_reverse]
  · intro c hc
    exact hpadding c (List.mem_reverse.mp hc)

/-- The text of a cursor is that of its payload. -/
theorem decodeCursorJson_encode (run : AdvisoryCopilotRunRecord) :
    decodeCursorJson readers (encodeCopilotRunCursor run) =
      some (String.ofList (JsonStrings.writeTextPair ("created_at", run.createdAt.isoformat)
        ("run_id", run.runId))) := by
  have hascii := JsonStrings.writeTextPair_ascii ("created_at", run.createdAt.isoformat)
    ("run_id", run.runId)
  have hencode : encodeCopilotRunCursor run = String.ofList ((Base64.encode true true
      ((JsonStrings.writeTextPair ("created_at", run.createdAt.isoformat)
        ("run_id", run.runId)).map Char.toNat)).rdropWhile (· = '=')) := rfl
  rw [hencode]
  generalize JsonStrings.writeTextPair ("created_at", run.createdAt.isoformat)
    ("run_id", run.runId) = payload at hascii
  have hbytes : ∀ byte ∈ payload.map Char.toNat, byte < 128 := by
    rw [List.forall_mem_map]
    exact hascii
  have hlt := Base64.sextets_lt fun byte hbyte => (hbytes byte hbyte).trans (by decide)
  have hlength : (Base64.sextets (payload.map Char.toNat)).length % 4 ≠ 1 := by
    rw [Base64.length_sextets]
    omega
  rw [Base64.encode, if_pos rfl, rdropWhile_padding _ hlt, decodeCursorJson]
  simp only [String.toList_ofList, List.length_map]
  have hsymbols : ∀ c ∈ (Base64.sextets (payload.map Char.toNat)).map (Base64.symbol true) ++
      Base64.padding (Base64.sextets (payload.map Char.toNat)).length, c.toNat < 128 := by
    have hall : ∀ n < 64, (Base64.symbol true n).toNat < 128 := by decide
    rw [List.forall_mem_append, List.forall_mem_map]
    refine ⟨fun n hn => hall n (hlt n hn), fun c hc => ?_⟩
    rw [List.eq_of_mem_replicate hc]
    decide
  have hpadding : (Base64.padding (Base64.sextets (payload.map Char.toNat)).length).map
      Base64.standardSymbol = Base64.padding (Base64.sextets (payload.map Char.toNat)).length := by
    rw [Base64.padding, List.map_replicate]
    rfl
  have hplain := List.all_eq_true.mpr fun c hc => decide_eq_true (hsymbols c hc)
  rw [if_pos hplain, List.map_append, Base64.map_standardSymbol true hlt, hpadding,
    Base64.decodeLenient_symbols hlt hlength,
    Base64.bytesOf_sextets fun byte hbyte => (hbytes byte hbyte).trans (by decide),
    Option.bind_some, decodeUtf8, if_pos hbytes, List.map_map]
  exact congrArg (fun cs => some (String.ofList cs)) (List.map_id'' Char.ofNat_toNat payload)

/-- Decoding undoes encoding. -/
theorem decodeCopilotRunCursor_encode (h : Listable run) :
    decodeCopilotRunCursor readers (some (encodeCopilotRunCursor run)) =
      .ok (some { createdAt := run.createdAt, runId := run.runId }) := by
  have hpayload : decodeCursorPayload readers (encodeCopilotRunCursor run) =
      some [("created_at", .str run.createdAt.isoformat), ("run_id", .str run.runId)] := by
    rw [decodeCursorPayload, decodeCursorJson_encode, Option.bind_some, loads, String.toList_ofList,
      JsonStrings.readTextPair_writeTextPair]
    rfl
  have hcreatedAt : parseCursorCreatedAt readers run.createdAt.isoformat = some run.createdAt := by
    rw [parseCursorCreatedAt, fromisoformat, DateTime.ofUtcIsoformat?_isoformat h.utc,
      Option.some_or, Option.filter_some, if_pos (by rw [h.utc]; rfl)]
  have hrunId : normalizeCursorRunId run.runId = some run.runId := by
    rw [normalizeCursorRunId, h.trimmed, if_neg h.nonblank]
  have hread : readCursor readers (encodeCopilotRunCursor run) =
      some { createdAt := run.createdAt, runId := run.runId } := by
    rw [readCursor, hpayload]
    have hfirst : cursorPayloadValue
        [("created_at", .str run.createdAt.isoformat), ("run_id", .str run.runId)] "created_at" =
          some run.createdAt.isoformat := rfl
    have hsecond : cursorPayloadValue
        [("created_at", .str run.createdAt.isoformat), ("run_id", .str run.runId)] "run_id" =
          some run.runId := rfl
    simp only [hfirst, hsecond, hcreatedAt, hrunId, Option.bind_eq_bind, Option.bind_some,
      Option.pure_def]
  rw [decodeCopilotRunCursor, hread]

end Codec

end LotusAdvise.AdvisoryCopilot
