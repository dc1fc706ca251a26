/-
**WHAT A CHUNK IS BILLED** (`infra/src/ai/client.rs`, `retry_chat` of
`infra/src/ai/workers.rs`, `core/src/ai/ports.rs`).

Two loops stand around one request. `request_decoded` asks again with a larger budget when a 2xx answer
does not decode, and adds up what its answers cost; `retry_bounded` calls it again when it ended in a
transient error, and the sum of the failed call is gone. The worker records the one sum it is handed.

A provider is the sequence of its replies; a call that still waits for a reply has no result.

- `requestDecoded`, `retryBounded`, `retryChat`: the loops;
- `retryChat_ok`: the replies behind a success;
- `chunk_billed_once_iff`: one ledger entry per paid reply, and its whole cost,
  exactly when the first paid reply decodes.

Request bodies, the backoff and the reason phrase after an HTTP status are left out.
-/
import Breakdown.Aggregates.AiConfig

namespace Breakdown.Ai

open List

/-! ## §1. Usage and its ledger -/

structure LlmCallUsage where
  tokensIn : UInt64 := 0
  tokensOut : UInt64 := 0
  cachedTokensIn : UInt64 := 0
  energyMillijoules : UInt64 := 0
  deriving DecidableEq

/-- `u64::saturating_add`. -/
def saturatingAdd64 (a b : UInt64) : UInt64 := .ofNat (min (a.toNat + b.toNat) (2 ^ 64 - 1))

/-- `LlmCallUsage::accumulate`. -/
def LlmCallUsage.accumulate (self other : LlmCallUsage) : LlmCallUsage where
  tokensIn := saturatingAdd64 self.tokensIn other.tokensIn
  tokensOut := saturatingAdd64 self.tokensOut other.tokensOut
  cachedTokensIn := saturatingAdd64 self.cachedTokensIn other.cachedTokensIn
  energyMillijoules := saturatingAdd64 self.energyMillijoules other.energyMillijoules

structure UsageAccumulator where
  usage : LlmCallUsage := {}
  calls : Nat := 0
  perCall : List LlmCallUsage := []

/-- `UsageAccumulator::record`. -/
def UsageAccumulator.record (self : UsageAccumulator) (usage : LlmCallUsage) : UsageAccumulator where
  usage := self.usage.accumulate usage
  calls := min (self.calls + 1) (2 ^ 32 - 1)
  perCall := self.perCall ++ [usage]

@[simp] theorem saturatingAdd64_zero (b) : saturatingAdd64 0 b = b := by
  have hb : 0 + b.toNat ≤ 2 ^ 64 - 1 := by
    have := b.toNat_lt
    omega
  show UInt64.ofNat (min (0 + b.toNat) _) = b
  rw [min_eq_left hb, Nat.zero_add, UInt64.ofNat_toNat]

@[simp] theorem LlmCallUsage.zero_accumulate (usage) : LlmCallUsage.accumulate {} usage = usage := by
  simp [accumulate]

/-! ## §2. Replies of a provider -/

structure ChatChoice where
  content : Option String
  finishReason : Option String := none

/-- The envelope of a 2xx answer, with its usage as `ChatCompletionResponse::usage` reads it. -/
structure ChatCompletionResponse where
  choices : List ChatChoice
  usage : LlmCallUsage

/-- The questions `classify_transport_error` asks of a `reqwest::Error`. -/
inductive TransportError
  | timeout | connect | redirect | other

/-- What comes back for one HTTP request. -/
inductive ProviderReply
  | failed (error : TransportError) (text : String)
  | response (status : Nat) (body : Except String ChatCompletionResponse)

/-- `StatusCode::is_success`. -/
def isSuccess (status : Nat) : Bool := 200 ≤ status && status < 300

def invalid (reason : String) : DomainError := .validation .domainValidation reason

/-- `classify_transport_error`. -/
def classifyTransportError (text : String) : TransportError → DomainError
  | .timeout | .connect => .serviceUnavailable s!"LLM provider transport unavailable: {text}"
  | .redirect => invalid s!"LLM provider redirect rejected by transport policy: {text}"
  | .other => invalid s!"LLM provider request failed: {text}"

/-- `classify_http_status`. -/
def classifyHttpStatus (status : Nat) : DomainError :=
  if status = 429 ∨ 500 ≤ status ∧ status < 600 then
    .serviceUnavailable s!"LLM provider returned HTTP {status}"
  else if 400 ≤ status ∧ status < 500 then
    invalid s!"LLM provider rejected request with HTTP {status}"
  else invalid s!"unexpected LLM provider HTTP status {status}"

/-- A reply the provider bills. -/
@[simp] def ProviderReply.paid : ProviderReply → Bool
  | .response status _ => isSuccess status
  | .failed _ _ => false

/-- The usage a reply reports. -/
@[simp] def ProviderReply.usage : ProviderReply → LlmCallUsage
  | .response _ (.ok envelope) => envelope.usage
  | _ => {}

/-- The text of its first choice. -/
@[simp] def ProviderReply.content : ProviderReply → Option String
  | .response _ (.ok envelope) => envelope.choices.head?.bind (·.content)
  | _ => none

/-! ## §3. The two loops -/

/-- `next_truncation_budget`: the finish reason is not looked at. -/
def nextTruncationBudget (_finishReason : Option String) (budget truncationRetriesLeft : Nat) :
    Option Nat :=
  if truncationRetriesLeft > 0 then some (min (budget * 2) (2 ^ 32 - 1)) else none

structure LlmCallOutcome (T : Type) where
  output : T
  usage : LlmCallUsage

/-- The result of a call and the replies it leaves. -/
abbrev Call (α : Type) := Option (Except DomainError α × List ProviderReply)

structure LlmChatRequest where
  provider : LlmProvider
  maxTokens : Nat

section Loops

variable {T : Type} (decode : String → Except String T)

/-- The loop of `request_decoded`. -/
def requestDecoded (schemaName : String) :
    (budget truncationRetries : Nat) → LlmCallUsage → List ProviderReply → Call (LlmCallOutcome T)
  | _, _, _, [] => none
  | _, _, _, .failed error text :: rest => some (.error (classifyTransportError text error), rest)
  | budget, truncationRetries, totalUsage, .response status body :: rest =>
    if !isSuccess status then some (.error (classifyHttpStatus status), rest) else
    match body with
    | .error e => some (.error (invalid s!"invalid LLM response: {e}"), rest)
    | .ok envelope =>
    match envelope.choices.head? with
    | none => some (.error (invalid "LLM response contained no choices"), rest)
    | some choice =>
    match choice.content with
    | none => some (.error (invalid "LLM response contained no content"), rest)
    | some content =>
    match decode content with
    | .ok context => some (.ok ⟨context, totalUsage.accumulate envelope.usage⟩, rest)
    | .error e =>
    match nextTruncationBudget choice.finishReason budget truncationRetries with
    | some grown =>
      requestDecoded schemaName grown (truncationRetries - 1) (totalUsage.accumulate envelope.usage) rest
    | none =>
      let suffix := if choice.finishReason = some "length" then
          " (response truncated at the output-token budget after bounded retries)"
        else " (after bounded retries with a grown output-token budget)"
      some (.error (invalid (s!"LLM JSON did not match {schemaName}: {e}" ++ suffix)), rest)

/-- `is_transient`. -/
def isTransient : DomainError → Bool
  | .serviceUnavailable _ => true
  | _ => false

/-- `retry_bounded`, with the retries that are left. -/
def retryBounded {α : Type} (op : List ProviderReply → Call α) : Nat → List ProviderReply → Call α
  | left, replies =>
    match op replies with
    | some (.error e, rest) =>
      match left with
      | left + 1 => if isTransient e then retryBounded op left rest else some (.error e, rest)
      | 0 => some (.error e, rest)
    | outcome => outcome

/-- `chat_constrained` of a client for `provider`. -/
def chatConstrained (provider : LlmProvider) (request : LlmChatRequest) (replies : List ProviderReply) :
    Call (LlmCallOutcome T) :=
  if request.provider ≠ provider then
    some (.error (invalid "LLM request provider does not match configured client"), replies)
  else requestDecoded decode "ScriptContext" request.maxTokens 2 {} replies

/-- `retry_chat`. -/
def retryChat (provider : LlmProvider) (request : LlmChatRequest) (maxRetries : Nat)
    (replies : List ProviderReply) : Call (LlmCallOutcome T) :=
  retryBounded (chatConstrained decode provider request) maxRetries replies

/-! ## §4. The replies of a call -/

/-- A 2xx answer whose content is what was asked for. -/
def ProviderReply.decodes (reply : ProviderReply) : Bool :=
  reply.paid && reply.content.any fun content => (decode content).isOk

/-- What was received when a call that began with `total` ended: a success is the first answer that
decodes, after paid answers that did not, and its usage covers all of them. -/
def Received (total : LlmCallUsage) (received : List ProviderReply) : Except DomainError (LlmCallOutcome T) → Prop
  | .error _ => ∀ reply ∈ received, reply.decodes decode = false
  | .ok out => ∃ before last, received = before ++ [last] ∧ last.decodes decode ∧
      (∀ reply ∈ before, reply.paid ∧ reply.decodes decode = false) ∧
      out.usage = (received.map ProviderReply.usage).foldl .accumulate total

variable {decode}

theorem Received.cons {received} (hpaid : reply.paid) (hno : reply.decodes decode = false)
    (h : Received decode (total.accumulate reply.usage) received outcome) :
    Received decode total (reply :: received) outcome := by
  cases outcome with
  | error => exact forall_mem_cons.mpr ⟨hno, h⟩
  | ok =>
    obtain ⟨before, last, rfl, hlast, hbefore, husage⟩ := h
    exact ⟨reply :: before, last, rfl, hlast, forall_mem_cons.mpr ⟨⟨hpaid, hno⟩, hbefore⟩, husage⟩

theorem requestDecoded_received
    (h : requestDecoded decode name budget retries total replies = some (outcome, rest)) :
    ∃ received, replies = received ++ rest ∧ Received decode total received outcome := by
  fun_induction requestDecoded decode name budget retries total replies with
  | case1 => cases h
  | case7 =>
    -- the answer decodes
    cases h
    refine ⟨[_], rfl, [], _, rfl, ?_, by simp, rfl⟩
    simp_all [ProviderReply.decodes, Except.isOk, Except.toBool]
  | case8 _ _ _ _ _ hstatus _ _ _ _ _ _ _ _ _ ih =>
    -- it does not, and is asked for again
    obtain ⟨received, rfl, hreceived⟩ := ih h
    refine ⟨_ :: received, rfl, hreceived.cons (by simpa using hstatus) ?_⟩
    simp_all [ProviderReply.decodes, Except.isOk, Except.toBool]
  | _ =>
    cases h
    exact ⟨[_], rfl, by simp_all [Received, ProviderReply.decodes, Except.isOk, Except.toBool]⟩

theorem chatConstrained_received
    (h : chatConstrained decode provider request replies = some (outcome, rest)) :
    ∃ received, replies = received ++ rest ∧ Received decode {} received outcome := by
  unfold chatConstrained at h
  split at h
  · cases h
    exact ⟨[], rfl, by simp [Received]⟩
  · exact requestDecoded_received h

/-- **The replies behind a success**: calls that failed, then the one call whose usage is returned. -/
theorem retryChat_ok
    (h : retryChat decode provider request retries replies = some (.ok out, rest)) :
    ∃ failed received, replies = failed ++ received ++ rest ∧
      (∀ reply ∈ failed, reply.decodes decode = false) ∧ Received decode {} received (.ok out) := by
  unfold retryChat at h
  fun_induction retryBounded (chatConstrained decode provider request) retries replies with
  | case1 replies e rest' hop left htransient ih =>
    obtain ⟨failed, rfl, hfailed⟩ := chatConstrained_received hop
    obtain ⟨failed', received, rfl, hfailed', hreceived⟩ := ih h
    refine ⟨failed ++ failed', received, by simp, ?_, hreceived⟩
    exact forall_mem_append.mpr ⟨hfailed, hfailed'⟩
  | case2 => cases h
  | case3 => cases h
  | case4 =>
    obtain ⟨received, rfl, hreceived⟩ := chatConstrained_received h
    exact ⟨[], received, rfl, by simp, hreceived⟩

end Loops

/-! ## §5. What is recorded -/

/-- The sum of some usages. -/
def totalUsage (usages : List LlmCallUsage) : LlmCallUsage := usages.foldl .accumulate {}

/-- The ledger gains one entry per paid reply, and their whole cost. -/
def BilledOnce (ledger ledger' : UsageAccumulator) (received : List ProviderReply) : Prop :=
  let paid := received.filter ProviderReply.paid
  let entries := ledger'.perCall.drop ledger.perCall.length
  entries.length = paid.length ∧ totalUsage entries = totalUsage (paid.map ProviderReply.usage)

instance (ledger ledger' received) : Decidable (BilledOnce ledger ledger' received) := by
  unfold BilledOnce
  infer_instance

/-- **When a chunk is billed as its replies were paid**: the entry recorded for a call that succeeded stands
for one paid reply and its whole cost exactly when the first paid reply already decodes. -/
theorem chunk_billed_once_iff {T : Type} (decode : String → Except String T) (provider : LlmProvider)
    (request : LlmChatRequest) (maxRetries : Nat) (received rest : List ProviderReply) (out : LlmCallOutcome T)
    (ledger : UsageAccumulator)
    (h : retryChat decode provider request maxRetries (received ++ rest) = some (.ok out, rest)) :
    BilledOnce ledger (ledger.record out.usage) received ↔
      ((received ++ rest).find? ProviderReply.paid).any (ProviderReply.decodes decode) := by
  obtain ⟨failed, _, hreplies, hfailed, before, last, rfl, hlast, hbefore, husage⟩ := retryChat_ok h
  rw [append_cancel_right hreplies, ← append_assoc]
  have hpaid : last.paid := (Bool.and_eq_true_iff.mp hlast).1
  have hentries : (ledger.record out.usage).perCall.drop ledger.perCall.length = [out.usage] := by
    simp [UsageAccumulator.record]
  have hfirst : (failed ++ before ++ [last] ++ rest).find? ProviderReply.paid =
      ((failed ++ before).find? ProviderReply.paid).or (some last) := by
    rw [append_assoc _ [last], find?_append, singleton_append, find?_cons_of_pos hpaid]
  have hfilter : (failed ++ before ++ [last]).filter ProviderReply.paid =
      (failed ++ before).filter ProviderReply.paid ++ [last] := by
    rw [filter_append, filter_cons_of_pos hpaid, filter_nil]
  unfold BilledOnce
  rw [hentries, hfilter, hfirst]
  cases hfind : (failed ++ before).find? ProviderReply.paid with
  | none =>
    -- nothing was paid for before the answer that decodes
    have hunpaid := find?_eq_none.mp hfind
    have hnil : before = [] := eq_nil_iff_forall_not_mem.mpr fun reply hmem =>
      hunpaid reply (mem_append_right _ hmem) (hbefore reply hmem).1
    rw [filter_eq_nil_iff.mpr hunpaid]
    refine iff_of_true ⟨rfl, ?_⟩ hlast
    simp [totalUsage, husage, hnil]
  | some reply =>
    -- an earlier reply was paid for as well
    have hmem := mem_of_find?_eq_some hfind
    have hno : reply.decodes decode = false := by
      rcases mem_append.mp hmem with hmem | hmem
      · exact hfailed reply hmem
      · exact (hbefore reply hmem).2
    refine iff_of_false ?_ (by simp [hno])
    intro ⟨hlen, _⟩
    have hpos := length_pos_of_mem (mem_filter.mpr ⟨hmem, find?_some hfind⟩)
    rw [length_append, length_singleton, length_singleton] at hlen
    omega

/-- A provider that answers with `texts`, one 2xx reply each. -/
def answering (texts : List String) : List ProviderReply :=
  texts.map fun text => .response 200 (.ok ⟨[⟨some text, some "stop"⟩], ⟨10, 5, 0, 700⟩⟩)

/-- A preview without rows, as a model answers it. -/
def emptyAnswer : String := "\x7b\"title\":null,\"scenes\":[],\"uncertainties\":[]\x7d"

/-- The same answer, cut off after its first character. -/
def cutAnswer : String := "\x7b"

/-- `serde_json` on these two. -/
def acceptsEmpty (text : String) : Except String Unit :=
  if text = emptyAnswer then .ok () else .error "EOF while parsing an object at line 1 column 1"

theorem chunk_billed_once_after_outage :
    BilledOnce {} (UsageAccumulator.record {} ⟨10, 5, 0, 700⟩)
        (.response 503 (.error "") :: answering [emptyAnswer]) ∧
      ((.response 503 (.error "") :: answering [emptyAnswer]).find? ProviderReply.paid).any
        (ProviderReply.decodes acceptsEmpty) := by
  have h := chunk_billed_once_iff acceptsEmpty .openRouter ⟨.openRouter, 100⟩ 1
    (.response 503 (.error "") :: answering [emptyAnswer]) [] ⟨(), ⟨10, 5, 0, 700⟩⟩ {} (by rfl)
  exact ⟨h.mpr (by decide), by decide⟩

/-- **Paid replies that the ledger does not show**: a cut answer and its retry become one entry, and a cut
answer before an outage is not billed at all. -/
theorem truncated_answers_misbilled :
    (∃ usage, retryChat acceptsEmpty .openRouter ⟨.openRouter, 100⟩ 1
          (answering [cutAnswer, emptyAnswer]) = some (.ok ⟨(), usage⟩, []) ∧
        ¬ BilledOnce {} (UsageAccumulator.record {} usage) (answering [cutAnswer, emptyAnswer])) ∧
      ∃ usage, retryChat acceptsEmpty .openRouter ⟨.openRouter, 100⟩ 1
          (answering [cutAnswer] ++ .response 503 (.error "") :: answering [emptyAnswer]) =
          some (.ok ⟨(), usage⟩, []) ∧
        usage ≠ totalUsage ((answering [cutAnswer, emptyAnswer]).map ProviderReply.usage) :=
  ⟨⟨⟨20, 10, 0, 1400⟩, by rfl, by decide⟩, ⟨10, 5, 0, 700⟩, by rfl, by decide⟩

end Breakdown.Ai
