import Deltapreneur.TldSearch.Search
import Mathlib.Data.List.Infix

/-!
# Availability checks in batches

Model of `_check_tld_batches` and `_check_labels_batch`
(`app/integrations/openprovider/client.py:2051-2351, 2354-2586`), which `Search.lean` takes as a
black box (`Calls.check`).

* `Wire` is what the registrar answers: to the request for some pairs, with or without prices, of
  the batch with this number, at this attempt. Batches run concurrently and are numbered through
  both passes, and a batch asks for the same pairs at most once, so an answer may depend on
  everything that has happened.
* A `_PoisonBatchError` carries the chunk that was checked, which the model does not repeat. Of two
  halves that both raise it is the left one whose error is kept.
* Left out: the token and the headers, the semaphore, the pauses between attempts and the log.
-/

namespace Deltapreneur.BatchCheck

open RegistrationPrice (Text)
open Windows (windows)

/-! ## One request -/

/-- `_DOMAIN_SEARCH_BATCH_SIZE`. -/
def DOMAIN_SEARCH_BATCH_SIZE : ℕ := 30

/-- `_DOMAIN_SEARCH_RETRIES`. -/
def DOMAIN_SEARCH_RETRIES : ℕ := 4

/-- `_DOMAIN_CHECK_POISON_CODES`. -/
def DOMAIN_CHECK_POISON_CODES : List ℤ := [199, 701]

/-- A body that is a JSON object. -/
structure Body (ρ : Type) where
  code : Option ℤ
  /-- `body.get("desc") or body.get("message") or "unknown"`. -/
  desc : Text
  /-- `body.get("data", {}).get("results", [])`, unless `data` has no `get`. -/
  results : Option (List ρ)

structure Response (ρ : Type) where
  statusCode : ℕ
  /-- `_response_is_auth_error`. -/
  isAuthError : Bool
  /-- `_format_http_error`. -/
  httpError : Text
  /-- `resp.json()`. -/
  json : Option (Body ρ)

inductive Answer (ρ : Type)
  /-- `httpx.TimeoutException` or `httpx.TransportError`. -/
  | transportError
  | response (r : Response ρ)

/-- What `_check_chunk` raises: a `_PoisonBatchError` or a `RuntimeError`. -/
inductive Raised
  | poison (message : Text)
  | runtimeError (message : Text)

/-- The message of a `_PoisonBatchError`. -/
def poisoned (code : ℤ) (desc : Text) : Raised :=
  .poison ("OpenProvider domains/check batch poisoned (code=".toList ++ (toString code).toList ++
    "): ".toList ++ desc)

/-- What an attempt makes of the answer; `none` asks for the next attempt. -/
def judge {ρ : Type} : Answer ρ → Option (Except Raised (List ρ))
  | .transportError => none
  | .response r =>
    if r.isAuthError then some (.error (.runtimeError r.httpError))
    else if 400 ≤ r.statusCode then
      match if r.statusCode = 500 then r.json else none with
      | some ⟨some code, desc, _⟩ =>
        if code = 10005 then some (.error (.runtimeError r.httpError))
        else if code ∈ DOMAIN_CHECK_POISON_CODES then some (.error (poisoned code desc))
        else none
      | _ =>
        if r.statusCode ∈ [429, 500, 502, 503, 504] then none
        else some (.error (.runtimeError r.httpError))
    else match r.json with
      | none =>
        some (.error (.runtimeError "Registrar domains/check returned invalid JSON.".toList))
      | some ⟨some 0, _, some results⟩ => some (.ok results)
      | some ⟨some 0, _, none⟩ =>
        some (.error (.runtimeError "'NoneType' object has no attribute 'get'".toList))
      | some ⟨some code, desc, _⟩ =>
        if code ∈ DOMAIN_CHECK_POISON_CODES then some (.error (poisoned code desc))
        else some (.error (.runtimeError ("Registrar domains/check error: ".toList ++ desc)))
      | some ⟨none, desc, _⟩ =>
        some (.error (.runtimeError ("Registrar domains/check error: ".toList ++ desc)))

/-! ## A batch -/

/-- The checks of one search, over extensions or over pairs. -/
structure Scan (ι ρ : Type) where
  post : (idx : ℕ) → (withPrice : Bool) → (chunk : List ι) → (attempt : ℕ) → Answer ρ
  /-- `MAX_RETRIES`. -/
  maxRetries : ℕ
  /-- What the error after the last attempt calls the batch. -/
  batch : ℕ → Text

variable {ι ρ : Type} (S : Scan ι ρ) (idx : ℕ) (withPrice : Bool) (chunk : List ι)

/-- What the attempts come to, unless none of them gets an answer. -/
def Scan.verdict : Option (Except Raised (List ρ)) :=
  (List.range' 1 S.maxRetries).findSome? fun attempt => judge (S.post idx withPrice chunk attempt)

/-- The error after the last attempt. -/
def Scan.gaveUp : Text :=
  "OpenProvider domains/check failed after ".toList ++ Nat.toDigits 10 S.maxRetries ++
    " attempts for ".toList ++ S.batch idx ++ ".".toList

/-- `_check_chunk`. -/
def Scan.checkChunk : Except Raised (List ρ) :=
  (S.verdict idx withPrice chunk).getD (.error (.runtimeError (S.gaveUp idx)))

/-- `_check_isolated`. A list is returned as it is, empty or not, where the source drops the
extension with a `return []`. -/
def Scan.checkIsolated (S : Scan ι ρ) (idx : ℕ) (chunk : List ι) : Except Text (List ρ) :=
  match S.checkChunk idx true chunk with
  | .ok results => .ok results
  | .error (.runtimeError message) => .error message
  | .error (.poison _) =>
    if _h : 1 < chunk.length then
      match S.checkIsolated idx (chunk.take (chunk.length / 2)),
          S.checkIsolated idx (chunk.drop (chunk.length / 2)) with
      | .ok left, .ok right => .ok (left ++ right)
      | .error message, _ => .error message
      | .ok _, .error message => .error message
    else if chunk = [] then .error "list index out of range".toList
    else match S.checkChunk idx false chunk with
      | .ok fallback => .ok fallback
      | .error _ => .ok []
termination_by chunk.length
decreasing_by all_goals simp only [List.length_take, List.length_drop]; omega

/-! ## The two searches -/

/-- `"word" in str(exc).lower()`, for the ASCII words that the code looks for. -/
def mentions (word : String) (message : Text) : Bool :=
  decide (word.toList <:+: message.map Char.toLower)

/-- The errors that abort the search: authentication failures. -/
def abortsSearch (message : Text) : Bool :=
  mentions "http 401" message || mentions "code=196" message ||
    mentions "circuit breaker" message ||
    (mentions "authentication" message &&
      (mentions "failed" message || mentions "error" message || mentions "login" message))

/-- `raw_results`, `failed_chunks` and `missing_tlds`. -/
structure Gathered (ι ρ : Type) where
  rawResults : List ρ := []
  failedChunks : ℕ := 0
  missing : List ι := []

/-- The loop over the results of the first pass and their chunks. -/
def gather : List (Except Text (List ρ) × List ι) → Except Text (Gathered ι ρ)
  | [] => .ok {}
  | (.ok results, _) :: rest =>
    (gather rest).map fun g => { g with rawResults := results ++ g.rawResults }
  | (.error message, chunk) :: rest =>
    if abortsSearch message then .error message
    else (gather rest).map fun g =>
      { g with failedChunks := g.failedChunks + 1, missing := chunk ++ g.missing }

/-- The chunks of a pass with their numbers. -/
def numbered (start : ℕ) (items : List ι) : List (ℕ × List ι) :=
  (windows DOMAIN_SEARCH_BATCH_SIZE items).mapIdx fun i chunk => (start + i, chunk)

def Scan.firstPass (items : List ι) : Except Text (Gathered ι ρ) :=
  gather ((numbered 0 items).map fun b => (S.checkIsolated b.1 b.2, b.2))

/-- `total_batches`. -/
def totalBatches (items : List ι) : ℕ :=
  max 1 ((items.length + DOMAIN_SEARCH_BATCH_SIZE - 1) / DOMAIN_SEARCH_BATCH_SIZE)

def Scan.secondPass (items missing : List ι) : List ρ :=
  (numbered (totalBatches items) missing).flatMap fun b =>
    match S.checkIsolated b.1 b.2 with
    | .ok results => results
    | .error _ => []

/-- A label and an extension. -/
abbrev Pair := Text × Text

/-- The registrar behind a search. -/
abbrev Wire (ρ : Type) := ℕ → Bool → List Pair → ℕ → Answer ρ

/-- `max_retries or _DOMAIN_SEARCH_RETRIES`. -/
def retriesOf : Option ℕ → ℕ
  | some (n + 1) => n + 1
  | _ => DOMAIN_SEARCH_RETRIES

/-- The checks of `_check_tld_batches`. -/
def tldScan (post : Wire ρ) (label : Text) (maxRetries : Option ℕ) : Scan Text ρ where
  post idx withPrice chunk := post idx withPrice (chunk.map fun tld => (label, tld))
  maxRetries := retriesOf maxRetries
  batch idx := "batch ".toList ++ Nat.toDigits 10 (idx / DOMAIN_SEARCH_BATCH_SIZE + 1)

/-- `_check_tld_batches`. -/
def checkTldBatches (post : Wire ρ) (label : Text) (tldsToCheck : List Text)
    (maxRetries : Option ℕ) : Except Text (List ρ) :=
  if tldsToCheck = [] then .ok []
  else
    let S := tldScan post label maxRetries
    match S.firstPass tldsToCheck with
    | .error message => .error message
    | .ok g =>
      let rawResults := g.rawResults ++ S.secondPass tldsToCheck g.missing
      if rawResults.isEmpty ∧ g.failedChunks ≠ 0 then
        .error ("OpenProvider domains/check failed for all ".toList ++
          Nat.toDigits 10 g.failedChunks ++ " batch(es) for label ".toList ++ label ++ ".".toList)
      else .ok rawResults

/-- The checks of `_check_labels_batch`. -/
def labelsScan (post : Wire ρ) (maxRetries : Option ℕ) : Scan Pair ρ where
  post := post
  maxRetries := retriesOf maxRetries
  batch idx := "pair-batch ".toList ++ Nat.toDigits 10 (idx + 1)

/-- `_check_labels_batch`. -/
def checkLabelsBatch (post : Wire ρ) (labels tldsToCheck : List Text) (maxRetries : Option ℕ) :
    Except Text (List ρ) :=
  if labels = [] ∨ tldsToCheck = [] then .ok []
  else
    let pairs := labels.flatMap fun lab => tldsToCheck.map fun tld => (lab, tld)
    match (labelsScan post maxRetries).firstPass pairs with
    | .error message => .error message
    | .ok g =>
      if g.rawResults.isEmpty ∧ g.failedChunks ≠ 0 then
        .error ("OpenProvider domains/check failed for all ".toList ++
          Nat.toDigits 10 g.failedChunks ++ " pair-batch(es).".toList)
      else .ok g.rawResults

end Deltapreneur.BatchCheck
