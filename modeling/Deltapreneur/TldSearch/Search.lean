import Deltapreneur.Cart.Requote
import Deltapreneur.Lib.Windows

/-!
# Search of a label over all extensions

Model of `search_openprovider_tlds` with its response cache
(`app/service/domain/domain_registration_service.py:192-207, 1065-1249`) and of the windows that
it puts to the registrar (`app/integrations/openprovider/client.py:1992-2048, 2602-2767`).

* The catalogue is fixed: what the registrar answers to the list request, which asks for at most
  600 extensions. The request itself may fail (`Calls.catalogueFails`).
* The check of a window (`_check_tld_batches`) answers with entries or raises; which of the two,
  and which entries, is left open (`Calls.check`). The status and the text of the error are those
  with which the service reports it.
* Next to its payload an answer records which extensions were put to the registrar for it
  (`asked`) and whether one of the calls for it failed (`failed`). The code keeps neither.
* The items of a payload are left to `Site.firstItems` and `Site.restItems`. A dictionary is a
  list of its entries. `source` and the log lines are left out.
-/

namespace Deltapreneur.TldSearch

open RegistrationPrice (Text lstripDots nameOf)
open Windows (window firsts)

/-! ## Labels and extensions -/

/-- `_SLD_CHARS`. -/
def SLD_CHARS : List Char := "abcdefghijklmnopqrstuvwxyz0123456789-".toList

/-- `text.strip("-")`. -/
def stripDashes (t : Text) : Text := (t.dropWhile (· = '-')).rdropWhile (· = '-')

/-- The name of an extension, with or without dots in front. -/
structure TldName where
  text : Text
  named : lstripDots text ≠ []

/-- `raw.lstrip(".")`. -/
def TldName.bare (t : TldName) : Text := lstripDots t.text

/-- `_TLD_REMAINING_WINDOW`. -/
def TLD_REMAINING_WINDOW : ℕ := 100
/-- `_TLD_SEARCH_CACHE_TTL`, in seconds. -/
def TLD_SEARCH_CACHE_TTL : ℚ := 300
/-- `_TLD_CATALOG_TTL_SECONDS`. -/
def TLD_CATALOG_TTL_SECONDS : ℚ := 6 * 60 * 60
/-- `_FIRST_PAGE_PRIORITY_COUNT`. -/
def FIRST_PAGE_PRIORITY_COUNT : ℕ := 60

/-- An `AppException`. -/
structure AppError where
  statusCode : ℕ
  message : String
  deriving DecidableEq

/-- What does not change during the searches. -/
structure Site (ε ι : Type) where
  /-- `_PRIORITY_TLDS`. -/
  priority : List TldName
  /-- The active extensions, as the registrar lists them. -/
  catalogue : List TldName
  catalogue_le : catalogue.length ≤ 600
  /-- `settings.openprovider_configured() or is_demo_mode()`. -/
  configured : Bool
  lower : Text → Text
  strip : Text → Text
  lower_sld : ∀ t, (∀ ch ∈ t, ch ∈ SLD_CHARS) → lower t = t
  strip_sld : ∀ t, (∀ ch ∈ t, ch ∈ SLD_CHARS) → strip t = t
  /-- The items of page 1: those that are available. -/
  firstItems : List ε → List ι
  /-- The items of a later page: available, premium or below 3000, by price. -/
  restItems : List ε → List ι

/-- How the registrar answers the calls for one request. -/
structure Calls (ε : Type) where
  catalogueFails : Bool
  check : Text → List Text → Except AppError (List ε)

variable {ε ι : Type} (S : Site ε ι)

/-- `sanitize_sld`. -/
def Site.sanitizeSld (raw : Text) : Text :=
  (stripDashes ((nameOf (S.lower (S.strip raw))).filter (· ∈ SLD_CHARS))).take 63

/-! ## The client -/

/-- What a search of the client returns or raises. -/
structure Scan (ε : Type) where
  results : Except AppError (List ε)
  asked : List Text
  failed : Bool

/-- A search that puts nothing to the registrar. -/
def Scan.empty : Scan ε := ⟨.ok [], [], false⟩

/-- `_check_tld_batches`. -/
def checkTldBatches (calls : Calls ε) (label : Text) (tlds : List Text) : Scan ε :=
  if tlds = [] then .empty
  else match calls.check label tlds with
    | .ok results => ⟨.ok results, tlds, false⟩
    | .error e => ⟨.error e, tlds, true⟩

/-- `_priority_tlds_deduped`. -/
def Site.priorityTldsDeduped : List Text :=
  firsts [] ((S.priority.map TldName.bare).filter (· ≠ []))

/-- `search_domains_label_first_page`. -/
def Site.firstPage (calls : Calls ε) (label : Text) : Scan ε :=
  let label := S.sanitizeSld label
  if label = [] then .empty
  else checkTldBatches calls label (S.priorityTldsDeduped.take FIRST_PAGE_PRIORITY_COUNT)

/-- The size of a wave: `max(1, min(int(chunk_size), max(1, max_tlds)))`. -/
def waveSize (chunkSize : ℕ) : ℕ := max 1 (min chunkSize FIRST_PAGE_PRIORITY_COUNT)

/-- `chunk_total`. -/
def Site.chunkTotal (chunkSize : ℕ) : ℕ :=
  max 1 (((S.priorityTldsDeduped.take FIRST_PAGE_PRIORITY_COUNT).length + chunkSize - 1) / chunkSize)

/-- `search_domains_label_first_page_chunk`, with `chunk_index`, `chunk_total` and
`more_chunks`. -/
def Site.firstPageChunk (calls : Calls ε) (label : Text) (chunkIndex chunkSize : ℕ) :
    Scan ε × ℕ × ℕ × Bool :=
  let label := S.sanitizeSld label
  if label = [] then (.empty, 0, 1, false)
  else
    let chunkSize := waveSize chunkSize
    let total := S.chunkTotal chunkSize
    if total ≤ chunkIndex then (.empty, chunkIndex, total, false)
    else
      (checkTldBatches calls label
        (window chunkSize chunkIndex (S.priorityTldsDeduped.take FIRST_PAGE_PRIORITY_COUNT)),
        chunkIndex, total, chunkIndex + 1 < total)

/-- The catalogue in the process, with its expiry. -/
abbrev CatalogCache := Option (ℚ × List TldName)

/-- `list_active_tlds`, whose answer is kept unless it is empty; `none` if the request fails. -/
def Site.fetchActiveTlds (calls : Calls ε) (now : ℚ) (cache : CatalogCache) :
    Option (List TldName) × CatalogCache :=
  if calls.catalogueFails then (none, cache)
  else if S.catalogue ≠ [] then
    (some S.catalogue, some (now + TLD_CATALOG_TTL_SECONDS, S.catalogue))
  else (some S.catalogue, cache)

/-- `_get_active_tlds_cached`. -/
def Site.getActiveTldsCached (calls : Calls ε) (now : ℚ) (cache : CatalogCache) :
    Option (List TldName) × CatalogCache :=
  match cache with
  | some (expiry, catalog) =>
    if now < expiry then (some catalog, cache) else S.fetchActiveTlds calls now cache
  | none => S.fetchActiveTlds calls now cache

/-- `_resolve_tlds_to_check`, from the catalogue, which is empty if its request failed. -/
def Site.resolveTldsToCheck (catalog : List TldName) (maxTlds : ℕ) : List Text :=
  let tlds :=
    if catalog ≠ [] then (catalog.map TldName.bare).take 600
    else (S.priority.take (min 600 (max 1 maxTlds))).map TldName.bare
  firsts [] (tlds.filter (· ≠ []))

/-- The extensions behind page 1: in the offset mode, and after a continuation token. -/
def Site.remainingTlds (allTlds : List Text) : Option Text → List Text
  | none =>
    let priorityAll := S.priorityTldsDeduped
    let firstPageCovered := priorityAll.take FIRST_PAGE_PRIORITY_COUNT
    priorityAll.filter (· ∉ firstPageCovered) ++ allTlds.filter (· ∉ priorityAll)
  | some afterTld =>
    let after := lstripDots afterTld
    if after ∈ allTlds then allTlds.drop (allTlds.idxOf after + 1)
    else allTlds.filter (· ∉ S.priority.map TldName.bare)

/-- `search_domains_label_remaining`, with `more_available`, from the resolved extensions. -/
def Site.labelRemaining (calls : Calls ε) (label : Text) (allTlds : List Text)
    (afterTld : Option Text) (chunkSize : Option ℕ) (offset : ℕ) : Scan ε × Bool :=
  if S.sanitizeSld label = [] then (.empty, false)
  else if allTlds = [] then (.empty, false)
  else
    let remaining := S.remainingTlds allTlds afterTld
    if remaining.length ≤ offset then (.empty, false)
    else match chunkSize with
      | none => (checkTldBatches calls (S.sanitizeSld label) (remaining.drop offset), false)
      | some size =>
        (checkTldBatches calls (S.sanitizeSld label) ((remaining.drop offset).take size),
          offset + size < remaining.length)

/-! ## The service -/

/-- The key of a cached response. -/
structure Key where
  /-- `commission.revision()`. -/
  revision : ℕ
  label : Text
  page : ℕ
  /-- The wave of page 1 and its size. -/
  chunk : Option (ℕ × ℕ)
  deriving DecidableEq

structure Payload (ι : Type) where
  label : Text
  total : ℕ
  page : ℕ
  pageSize : ℕ
  totalPages : ℕ
  moreAvailable : Bool
  /-- `chunkIndex`, `chunkTotal` and `moreChunks`. -/
  chunk : Option (ℕ × ℕ × Bool)
  items : List ι

/-- A response with the extensions that were put to the registrar for it. -/
structure Answer (ι : Type) where
  payload : Payload ι
  asked : List Text
  failed : Bool

/-- The caches of the process. -/
structure State (ι : Type) where
  /-- `_tld_search_cache`: the expiry and the response. -/
  cache : List (Key × ℚ × Answer ι) := []
  catalog : CatalogCache := none

/-- `_tld_search_cache_get`. -/
def State.cacheGet (s : State ι) (now : ℚ) (key : Key) : Option (Answer ι) × State ι :=
  match s.cache.find? (·.1 = key) with
  | none => (none, s)
  | some (_, expiry, answer) =>
    if expiry ≤ now then (none, { s with cache := s.cache.filter (·.1 ≠ key) })
    else (some answer, s)

/-- `_tld_search_cache_put`. -/
def State.cachePut (s : State ι) (now : ℚ) (key : Key) (answer : Answer ι) : State ι :=
  let kept := if 512 < s.cache.length then [] else s.cache
  { s with cache := (key, now + TLD_SEARCH_CACHE_TTL, answer) :: kept.filter (·.1 ≠ key) }

/-- A request, the times at which the cache is read and written, and the answers to its calls. -/
structure Request (ε : Type) where
  revision : ℕ
  name : Text
  page : ℕ := 1
  pageSize : ℕ := 50
  chunk : Option ℕ := none
  chunkSize : ℕ := 12
  now : ℚ
  done : ℚ
  calls : Calls ε

/-- What the service returns or raises. -/
structure Reply (ι : Type) where
  payload : Except AppError (Payload ι)
  asked : List Text
  failed : Bool

/-- `max(1, min(int(chunk_size or 12), 60))`. -/
def clampChunk (chunkSize : ℕ) : ℕ := max 1 (min (if chunkSize = 0 then 12 else chunkSize) 60)

def Site.key (r : Request ε) : Key where
  revision := r.revision
  label := S.sanitizeSld r.name
  page := max 1 r.page
  chunk := r.chunk.map fun c => (c, clampChunk r.chunkSize)

/-- Answers, and keeps the answer. -/
def State.remember (s : State ι) (now : ℚ) (key : Key) (answer : Answer ι) : Reply ι × State ι :=
  (⟨.ok answer.payload, answer.asked, answer.failed⟩, s.cachePut now key answer)

/-- The answer to a request for page 1, from the search of the client. -/
def Site.pageOne (s : State ι) (r : Request ε) (key : Key) (scan : Scan ε)
    (chunk : Option (ℕ × ℕ × Bool)) : Reply ι × State ι :=
  match scan.results with
  | .error e => (⟨.error e, scan.asked, scan.failed⟩, s)
  | .ok raw =>
    let items := S.firstItems raw
    s.remember r.done key ⟨⟨key.label, items.length, 1, max 1 (min r.pageSize 2000), 2, true, chunk,
      items⟩, scan.asked, scan.failed⟩

/-- One wave of page 1. -/
def Site.chunkPage (s : State ι) (r : Request ε) (key : Key) (chunk : ℕ) : Reply ι × State ι :=
  let (scan, wave) := S.firstPageChunk r.calls key.label chunk (clampChunk r.chunkSize)
  S.pageOne s r key scan (some wave)

def Site.fastPage (s : State ι) (r : Request ε) (key : Key) : Reply ι × State ι :=
  S.pageOne s r key (S.firstPage r.calls key.label) none

/-- The search of the client for a later page. -/
def Site.laterScan (r : Request ε) (key : Key) (catalog : Option (List TldName)) : Scan ε × Bool :=
  S.labelRemaining r.calls key.label (S.resolveTldsToCheck (catalog.getD []) 1000) none
    (some TLD_REMAINING_WINDOW) ((key.page - 2) * TLD_REMAINING_WINDOW)

/-- The answer to a request for a later page. A check that fails counts as an empty last page. -/
def Site.laterAnswer (r : Request ε) (key : Key) (catalog : Option (List TldName)) : Answer ι :=
  let (raw, more) := match S.laterScan r key catalog with
    | (⟨.ok raw, _, _⟩, more) => (raw, more)
    | (⟨.error _, _, _⟩, _) => ([], false)
  let items := S.restItems raw
  { payload := ⟨key.label, items.length, key.page, max 1 (min r.pageSize 2000),
      if more then key.page + 1 else key.page, more, none, items⟩
    asked := (S.laterScan r key catalog).1.asked
    failed := catalog.isNone || (S.laterScan r key catalog).1.failed }

/-- A later page, which is kept like any other. -/
def Site.laterPage (s : State ι) (r : Request ε) (key : Key) : Reply ι × State ι :=
  let read := S.getActiveTldsCached r.calls r.now s.catalog
  { s with catalog := read.2 }.remember r.done key (S.laterAnswer r key read.1)

/-- `search_openprovider_tlds`. -/
def Site.search (s : State ι) (r : Request ε) : Reply ι × State ι :=
  if S.sanitizeSld r.name = [] then
    (⟨.error ⟨400, "Query param 'name' is required."⟩, [], false⟩, s)
  else if !S.configured then
    (⟨.error ⟨503, "Domain availability search is not configured. " ++
      "Set OpenProvider API credentials in the environment."⟩, [], false⟩, s)
  else
    let key := S.key r
    match s.cacheGet r.now key with
    | (some answer, s) =>
      (⟨.ok { answer.payload with pageSize := max 1 (min r.pageSize 2000) }, answer.asked,
        answer.failed⟩, s)
    | (none, s) =>
      if key.page = 1 then
        match r.chunk with
        | some chunk => S.chunkPage s r key chunk
        | none => S.fastPage s r key
      else S.laterPage s r key

/-- The state after a list of requests. -/
def Site.run (s : State ι) (rs : List (Request ε)) : State ι :=
  rs.foldl (fun s r => (S.search s r).2) s

end Deltapreneur.TldSearch
