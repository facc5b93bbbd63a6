import Deltapreneur.TldSearch.Search

/-!
# Paging through a search visits every extension once

Whether the pages of a search, one after the other until one says that no more are available,
put every extension of the priority list and of the catalogue to the registrar exactly once, and
whether a page for which a call failed is taken for the end or kept in the cache. Other requests
may come between the pages, and the cache is any that earlier requests have left.

A failure on page 1 raises. A failure on a later page is answered as an empty last page, and that
answer is kept: the search ends there, and so does every search that asks for the page while it
is kept.

* `Site.first`, `Site.rest`: the extensions of page 1 and those behind it.
* `Site.Fits`: an answer is the one for its key.
* `Visit`, `Site.reply`: the pages of a search.
* `Site.Exhaustive`: the property.

Results:

* `exhaustive_iff`: exactly when the property holds.
* `failed_page_is_last`: a search that ends at a page whose check failed.
-/

namespace Deltapreneur.TldSearch

open RegistrationPrice (Text nameOf)
open Windows

variable {ε ι : Type} (S : Site ε ι) {ch : Char}

/-! ## The extensions -/

def Site.first : List Text := S.priorityTldsDeduped.take FIRST_PAGE_PRIORITY_COUNT

/-- The extensions behind page 1. -/
def Site.rest : List Text := S.remainingTlds (S.resolveTldsToCheck S.catalogue 1000) none

def Site.laterPages : ℕ := max 1 ((S.rest.length + 99) / 100)

variable {S} {t : Text}

theorem TldName.bare_ne_nil (t : TldName) : t.bare ≠ [] := t.named

theorem filter_bare (l : List TldName) :
    (l.map TldName.bare).filter (· ≠ []) = l.map TldName.bare := by
  rw [List.filter_eq_self]
  intro t ht
  obtain ⟨name, -, rfl⟩ := List.mem_map.mp ht
  simpa using name.bare_ne_nil

theorem mem_priorityTldsDeduped :
    t ∈ S.priorityTldsDeduped ↔ t ∈ S.priority.map TldName.bare := by
  rw [Site.priorityTldsDeduped, filter_bare, mem_firsts]
  simp

theorem nodup_priorityTldsDeduped : S.priorityTldsDeduped.Nodup := nodup_firsts _ _

theorem mem_resolveTldsToCheck {catalog : List TldName} (hle : catalog.length ≤ 600) :
    t ∈ S.resolveTldsToCheck catalog 1000 ↔
      t ∈ catalog.map TldName.bare ∨ catalog = [] ∧ t ∈ (S.priority.take 600).map TldName.bare := by
  have hall : (catalog.map TldName.bare).take 600 = catalog.map TldName.bare :=
    List.take_of_length_le (by simpa using hle)
  rw [Site.resolveTldsToCheck, mem_firsts, and_iff_left List.not_mem_nil]
  by_cases hempty : catalog = []
  · subst hempty
    rw [if_neg (by simp), filter_bare]
    simp
  · rw [if_pos hempty, hall, filter_bare]
    simp [hempty]

theorem rest_eq : S.rest = S.priorityTldsDeduped.drop FIRST_PAGE_PRIORITY_COUNT ++
    (S.resolveTldsToCheck S.catalogue 1000).filter (· ∉ S.priorityTldsDeduped) := by
  have hnodup := nodup_priorityTldsDeduped (S := S)
  rw [← List.take_append_drop FIRST_PAGE_PRIORITY_COUNT S.priorityTldsDeduped] at hnodup
  have hdisjoint := (List.nodup_append.mp hnodup).2.2
  have htail : S.priorityTldsDeduped.filter (· ∉ S.first) =
      S.priorityTldsDeduped.drop FIRST_PAGE_PRIORITY_COUNT := by
    conv_lhs => rw [← List.take_append_drop FIRST_PAGE_PRIORITY_COUNT S.priorityTldsDeduped]
    rw [List.filter_append, List.filter_eq_nil_iff.mpr, List.filter_eq_self.mpr, List.nil_append]
    · intro x hx
      exact decide_eq_true fun h => hdisjoint x h x hx rfl
    · intro x hx
      exact fun h => of_decide_eq_true h hx
  rw [Site.rest, Site.remainingTlds]
  exact congrArg (· ++ _) htail

/-- **Every extension is on some page.** -/
theorem mem_pages : t ∈ S.first ++ S.rest ↔
    t ∈ S.priority.map TldName.bare ∨ t ∈ S.catalogue.map TldName.bare := by
  rw [rest_eq, Site.first, ← List.append_assoc, List.take_append_drop, List.mem_append,
    mem_priorityTldsDeduped, List.mem_filter, mem_resolveTldsToCheck S.catalogue_le]
  simp only [decide_eq_true_eq, mem_priorityTldsDeduped]
  constructor
  · rintro (h | ⟨h | ⟨-, h⟩, -⟩)
    · exact .inl h
    · exact .inr h
    · exact .inl (List.map_subset _ (List.take_subset 600 S.priority) h)
  · rintro (h | h)
    · exact .inl h
    · by_cases hmem : t ∈ S.priority.map TldName.bare
      · exact .inl hmem
      · exact .inr ⟨.inl h, hmem⟩

/-- **No extension is on two.** -/
theorem nodup_pages : (S.first ++ S.rest).Nodup := by
  rw [rest_eq, Site.first, ← List.append_assoc, List.take_append_drop, List.nodup_append]
  refine ⟨nodup_priorityTldsDeduped, (nodup_firsts _ _).filter _, ?_⟩
  rintro x hx y hy rfl
  simpa [hx] using (List.mem_filter.mp hy).2

theorem rest_eq_nil (h : S.resolveTldsToCheck S.catalogue 1000 = []) : S.rest = [] := by
  have hnone : ∀ t, t ∉ S.resolveTldsToCheck S.catalogue 1000 := by simp [h]
  simp only [mem_resolveTldsToCheck S.catalogue_le, not_or, not_and] at hnone
  have hcat : S.catalogue = [] := by
    by_contra hne
    obtain ⟨c, hc⟩ := List.exists_mem_of_ne_nil _ hne
    exact (hnone c.bare).1 (List.mem_map_of_mem hc)
  have hprio : S.priority = [] := by
    by_contra hne
    have hne' : S.priority.take 600 ≠ [] := by simpa using hne
    obtain ⟨p, hp⟩ := List.exists_mem_of_ne_nil _ hne'
    exact (hnone p.bare).2 hcat (List.mem_map_of_mem hp)
  rw [rest_eq, h]
  simp [Site.priorityTldsDeduped, hprio, firsts]

/-! ## Labels -/

theorem dropWhile_head_ne {rest : Text} (h : t.dropWhile (· = '-') = ch :: rest) : ch ≠ '-' := by
  have hne : t.dropWhile (· = '-') ≠ [] := by simp [h]
  have hhead := List.head_dropWhile_not (· = '-') hne
  simpa [h] using hhead

theorem stripDashes_head_ne {rest : Text} (h : stripDashes t = ch :: rest) : ch ≠ '-' := by
  obtain ⟨suffix, hsuffix⟩ := List.rdropWhile_prefix (p := (· = '-')) (l := t.dropWhile (· = '-'))
  rw [show (t.dropWhile (· = '-')).rdropWhile (· = '-') = ch :: rest from h] at hsuffix
  exact dropWhile_head_ne hsuffix.symm

theorem stripDashes_ne_nil (hch : ch ∈ t) (hne : ch ≠ '-') : stripDashes t ≠ [] := by
  intro h
  have hall := List.rdropWhile_eq_nil_iff.mp h
  cases hdrop : t.dropWhile (· = '-') with
  | nil => exact hne (by simpa using List.dropWhile_eq_nil_iff.mp hdrop ch hch)
  | cons c rest =>
    refine dropWhile_head_ne hdrop ?_
    simpa using hall c (by simp [hdrop])

theorem mem_sanitizeSld {raw : Text} (h : ch ∈ S.sanitizeSld raw) : ch ∈ SLD_CHARS := by
  have hmem := (List.dropWhile_sublist _).subset
    ((List.rdropWhile_prefix _ _).subset ((List.take_subset 63 _) h))
  simpa using (List.mem_filter.mp hmem).2

/-- A usable label is still usable when it is cleaned again. -/
theorem sanitizeSld_ne_nil {raw : Text} (h : S.sanitizeSld raw ≠ []) :
    S.sanitizeSld (S.sanitizeSld raw) ≠ [] := by
  have hchars : ∀ ch ∈ S.sanitizeSld raw, ch ∈ SLD_CHARS := fun _ => mem_sanitizeSld
  have hname : nameOf (S.sanitizeSld raw) = S.sanitizeSld raw := by
    rw [nameOf, List.takeWhile_eq_self_iff]
    intro ch hch
    have hdot : ch ≠ '.' := fun hdot => absurd (hdot ▸ hchars ch hch) (by decide)
    simpa using hdot
  have hfilter : (S.sanitizeSld raw).filter (· ∈ SLD_CHARS) = S.sanitizeSld raw :=
    List.filter_eq_self.mpr fun ch hch => decide_eq_true (hchars ch hch)
  have hsame : S.sanitizeSld (S.sanitizeSld raw) = (stripDashes (S.sanitizeSld raw)).take 63 := by
    conv_lhs => rw [Site.sanitizeSld, S.strip_sld _ hchars, S.lower_sld _ hchars, hname, hfilter]
  rw [hsame, ne_eq, List.take_eq_nil_iff, not_or]
  refine ⟨by decide, ?_⟩
  cases hclean : stripDashes ((nameOf (S.lower (S.strip raw))).filter (· ∈ SLD_CHARS)) with
  | nil => exact absurd (by rw [Site.sanitizeSld, hclean, List.take_nil]) h
  | cons ch rest =>
    have hmem : ch ∈ S.sanitizeSld raw := by
      rw [Site.sanitizeSld, hclean]
      exact List.mem_cons_self
    exact stripDashes_ne_nil hmem (stripDashes_head_ne hclean)

/-! ## What a request is answered -/

variable (S)

/-- The extensions that the answer for a key is about. -/
def Site.window (key : Key) : List Text :=
  if key.page = 1 then
    match key.chunk with
    | none => S.first
    | some (chunk, size) => Windows.window (waveSize size) chunk S.first
  else Windows.window TLD_REMAINING_WINDOW (key.page - 2) S.rest

/-- Whether the answer for a key says that more are available. -/
def Site.more (key : Key) : Bool :=
  key.page = 1 || decide ((key.page - 1) * TLD_REMAINING_WINDOW < S.rest.length)

/-- An answer is the one for its key; a failed one only ever is for a later page. -/
structure Site.Fits (key : Key) (asked : List Text) (failed : Bool) (p : Payload ι) : Prop where
  page_one : key.page = 1 → failed = false
  asked : failed = false → asked = S.window key
  more : failed = false → p.moreAvailable = S.more key
  wave : key.page = 1 → ∀ chunk size, key.chunk = some (chunk, size) →
    p.chunk = some (chunk, S.chunkTotal (waveSize size),
      decide (chunk + 1 < S.chunkTotal (waveSize size)))

/-- The caches hold answers for their keys and the catalogue. -/
structure Site.Genuine (s : State ι) : Prop where
  fits : ∀ e ∈ s.cache, S.Fits e.1 e.2.2.asked e.2.2.failed e.2.2.payload
  catalog : ∀ c, s.catalog = some c → c.2 = S.catalogue

/-- A reply is an answer for the key, which is kept; or page 1 raises, and nothing is kept. -/
inductive Site.Served (key : Key) (s : State ι) : Reply ι → Prop
  | answered (p : Payload ι) (asked : List Text) (failed : Bool) :
      S.Fits key asked failed p → (∃ e ∈ s.cache, e.1 = key) →
        Site.Served key s ⟨.ok p, asked, failed⟩
  | raised (e : AppError) : key.page = 1 → S.window key ≠ [] → (∀ e ∈ s.cache, e.1 ≠ key) →
      Site.Served key s ⟨.error e, S.window key, true⟩

variable {S} {s : State ι} {r : Request ε} {key : Key} {answer : Answer ι}

theorem Site.Genuine.cachePut (hs : S.Genuine s) (now : ℚ)
    (hfits : S.Fits key answer.asked answer.failed answer.payload) :
    S.Genuine (s.cachePut now key answer) where
  fits e he := by
    obtain rfl | he := List.mem_cons.mp he
    · exact hfits
    · have hmem := List.mem_of_mem_filter he
      split_ifs at hmem with hfull
      · cases hmem
      · exact hs.fits e hmem
  catalog := hs.catalog

theorem Site.Genuine.remember (hs : S.Genuine s) (now : ℚ)
    (hfits : S.Fits key answer.asked answer.failed answer.payload) :
    S.Served key (s.remember now key answer).2 (s.remember now key answer).1 ∧
      S.Genuine (s.remember now key answer).2 :=
  ⟨.answered _ _ _ hfits ⟨_, List.mem_cons_self, rfl⟩, hs.cachePut now hfits⟩

/-- A read of the cache finds an answer for the key, or leaves none. -/
theorem cacheGet_spec (hs : S.Genuine s) (now : ℚ) (key : Key) :
    match s.cacheGet now key with
    | (some answer, s') => s' = s ∧ ∃ expiry, (key, expiry, answer) ∈ s.cache
    | (none, s') => S.Genuine s' ∧ ∀ e ∈ s'.cache, e.1 ≠ key := by
  unfold State.cacheGet
  cases hfind : s.cache.find? (·.1 = key) with
  | none =>
    refine ⟨hs, fun e he heq => ?_⟩
    simpa [heq] using List.find?_eq_none.mp hfind e he
  | some e =>
    obtain ⟨key', expiry, answer⟩ := e
    have hkey : key' = key := by simpa using List.find?_some hfind
    subst hkey
    dsimp only
    split_ifs with hexpired
    · refine ⟨⟨fun e he => hs.fits e (List.mem_of_mem_filter he), hs.catalog⟩, fun e he => ?_⟩
      simpa using (List.mem_filter.mp he).2
    · exact ⟨rfl, expiry, List.mem_of_find?_eq_some hfind⟩

theorem checkTldBatches_asked (calls : Calls ε) (label : Text) (tlds : List Text) :
    (checkTldBatches calls label tlds).asked = tlds ∧
      ((checkTldBatches calls label tlds).failed = true ↔
        ∃ e, (checkTldBatches calls label tlds).results = .error e) := by
  unfold checkTldBatches Scan.empty
  split_ifs with hnil
  · simp [hnil]
  · cases calls.check label tlds <;> simp

theorem waveSize_pos (size : ℕ) : 0 < waveSize size := lt_max_of_lt_left Nat.one_pos

theorem length_first_le (size : ℕ) :
    S.first.length ≤ S.chunkTotal (waveSize size) * waveSize size := by
  have hpos := waveSize_pos size
  have hdiv := Nat.lt_div_mul_add (a := S.first.length + waveSize size - 1) hpos
  have hle := Nat.mul_le_mul_right (waveSize size)
    (le_max_right 1 ((S.first.length + waveSize size - 1) / waveSize size))
  change S.first.length ≤
    max 1 ((S.first.length + waveSize size - 1) / waveSize size) * waveSize size
  omega

theorem firstPageChunk_eq (calls : Calls ε) {label : Text} (hlabel : S.sanitizeSld label ≠ [])
    (chunk size : ℕ) :
    S.firstPageChunk calls label chunk size =
      (checkTldBatches calls (S.sanitizeSld label) (Windows.window (waveSize size) chunk S.first),
        chunk, S.chunkTotal (waveSize size),
        decide (chunk + 1 < S.chunkTotal (waveSize size))) := by
  unfold Site.firstPageChunk
  rw [if_neg hlabel]
  dsimp only
  split_ifs with hlast
  · have hend : S.first.length ≤ chunk * waveSize size :=
      (length_first_le size).trans (Nat.mul_le_mul_right _ hlast)
    have hmore : ¬ chunk + 1 < S.chunkTotal (waveSize size) := by omega
    rw [window_eq_nil hend, checkTldBatches, if_pos rfl, decide_eq_false hmore]
  · rfl

theorem pageOne_served (hs : S.Genuine s) (hpage : key.page = 1) (hnone : ∀ e ∈ s.cache, e.1 ≠ key)
    {label : Text} {wave : Option (ℕ × ℕ × Bool)}
    (hwave : ∀ chunk size, key.chunk = some (chunk, size) →
      wave = some (chunk, S.chunkTotal (waveSize size),
        decide (chunk + 1 < S.chunkTotal (waveSize size)))) :
    S.Served key (S.pageOne s r key (checkTldBatches r.calls label (S.window key)) wave).2
        (S.pageOne s r key (checkTldBatches r.calls label (S.window key)) wave).1 ∧
      S.Genuine (S.pageOne s r key (checkTldBatches r.calls label (S.window key)) wave).2 := by
  obtain ⟨hasked, hfailed⟩ := checkTldBatches_asked r.calls label (S.window key)
  unfold Site.pageOne
  cases hresults : (checkTldBatches r.calls label (S.window key)).results with
  | error e =>
    dsimp only
    have hne : S.window key ≠ [] := by
      intro hnil
      rw [hnil, checkTldBatches, if_pos rfl] at hresults
      cases hresults
    rw [hasked, hfailed.mpr ⟨e, hresults⟩]
    exact ⟨.raised e hpage hne hnone, hs⟩
  | ok raw =>
    have hok : (checkTldBatches r.calls label (S.window key)).failed = false := by
      simpa [hresults] using hfailed
    refine hs.remember r.done ⟨fun _ => hok, fun _ => hasked, fun _ => ?_, fun _ => hwave⟩
    simp [Site.more, hpage]

/-- The window of a later page, when the catalogue could be read. -/
theorem laterScan_eq (hlabel : S.sanitizeSld key.label ≠ []) {n : ℕ} (hn : key.page = n + 2) :
    S.laterScan r key (some S.catalogue) =
      (checkTldBatches r.calls (S.sanitizeSld key.label) (S.window key), S.more key) := by
  have hwindow : S.window key = Windows.window TLD_REMAINING_WINDOW n S.rest := by
    simp [Site.window, hn]
  have hmore : S.more key = decide ((n + 1) * TLD_REMAINING_WINDOW < S.rest.length) := by
    simp [Site.more, hn]
  rw [hwindow, hmore]
  have hempty : S.rest.length ≤ n * TLD_REMAINING_WINDOW →
      ((.empty, false) : Scan ε × Bool) =
        (checkTldBatches r.calls (S.sanitizeSld key.label)
          (Windows.window TLD_REMAINING_WINDOW n S.rest),
          decide ((n + 1) * TLD_REMAINING_WINDOW < S.rest.length)) := by
    intro hend
    have hlast : ¬ (n + 1) * TLD_REMAINING_WINDOW < S.rest.length := by
      rw [Nat.succ_mul]
      omega
    rw [window_eq_nil hend, checkTldBatches, if_pos rfl, decide_eq_false hlast]
  rw [Site.laterScan, Option.getD_some, hn, Nat.add_sub_cancel, Site.labelRemaining, if_neg hlabel]
  by_cases hnone : S.resolveTldsToCheck S.catalogue 1000 = []
  · rw [if_pos hnone]
    exact hempty (by simp [rest_eq_nil hnone])
  rw [if_neg hnone]
  by_cases hend : S.rest.length ≤ n * TLD_REMAINING_WINDOW
  · rw [← hempty hend]
    exact if_pos hend
  · rw [Nat.succ_mul]
    exact if_neg hend

/-- The catalogue that is read is the registrar's, unless its request fails. -/
theorem getActiveTldsCached_spec (hs : S.Genuine s) (calls : Calls ε) (now : ℚ) :
    ((S.getActiveTldsCached calls now s.catalog).1 = none ∨
        (S.getActiveTldsCached calls now s.catalog).1 = some S.catalogue) ∧
      ∀ c, (S.getActiveTldsCached calls now s.catalog).2 = some c → c.2 = S.catalogue := by
  have hfetch : ((S.fetchActiveTlds calls now s.catalog).1 = none ∨
      (S.fetchActiveTlds calls now s.catalog).1 = some S.catalogue) ∧
      ∀ c, (S.fetchActiveTlds calls now s.catalog).2 = some c → c.2 = S.catalogue := by
    unfold Site.fetchActiveTlds
    split_ifs
    · exact ⟨.inl rfl, hs.catalog⟩
    · refine ⟨.inr rfl, fun c hc => ?_⟩
      cases hc
      rfl
    · exact ⟨.inr rfl, hs.catalog⟩
  unfold Site.getActiveTldsCached
  cases hcatalog : s.catalog with
  | none => rwa [hcatalog] at hfetch
  | some c =>
    rw [hcatalog] at hfetch
    dsimp only
    split_ifs
    · have hc := hs.catalog c hcatalog
      exact ⟨.inr (by rw [hc]), fun c' h => by rw [← Option.some.inj h, hc]⟩
    · exact hfetch

/-- The answer for a later page that no call failed for is the one for its key. -/
theorem laterAnswer_fits (hlabel : S.sanitizeSld key.label ≠ []) (hpage : 2 ≤ key.page)
    {catalog : Option (List TldName)} (hread : catalog = none ∨ catalog = some S.catalogue) :
    S.Fits key (S.laterAnswer r key catalog).asked (S.laterAnswer r key catalog).failed
      (S.laterAnswer r key catalog).payload := by
  obtain ⟨n, hn⟩ := Nat.exists_eq_add_of_le' hpage
  have hne : key.page ≠ 1 := by omega
  have hok : (S.laterAnswer r key catalog).failed = false →
      (S.laterAnswer r key catalog).asked = S.window key ∧
        (S.laterAnswer r key catalog).payload.moreAvailable = S.more key := by
    obtain rfl | rfl := hread
    · simp [Site.laterAnswer]
    · obtain ⟨hasked, hfailed⟩ := checkTldBatches_asked r.calls (S.sanitizeSld key.label)
        (S.window key)
      unfold Site.laterAnswer
      rw [laterScan_eq hlabel hn]
      generalize checkTldBatches r.calls (S.sanitizeSld key.label) (S.window key) = scan at *
      obtain ⟨results, asked, failed⟩ := scan
      cases results with
      | error e => simp_all
      | ok raw => exact fun _ => ⟨hasked, rfl⟩
  exact ⟨fun h => absurd h hne, fun h => (hok h).1, fun h => (hok h).2, fun h => absurd h hne⟩

/-- **What one request is answered**, and what it leaves in the cache. -/
theorem search_served (hs : S.Genuine s) (hconf : S.configured)
    (hlabel : S.sanitizeSld r.name ≠ []) :
    S.Served (S.key r) (S.search s r).2 (S.search s r).1 ∧ S.Genuine (S.search s r).2 := by
  have hlabel' : S.sanitizeSld (S.key r).label ≠ [] := sanitizeSld_ne_nil hlabel
  have hget := cacheGet_spec hs r.now (S.key r)
  unfold Site.search
  rw [if_neg hlabel, if_neg (by simp [hconf])]
  dsimp only
  generalize s.cacheGet r.now (S.key r) = got at hget
  obtain ⟨_ | answer, s'⟩ := got
  · obtain ⟨hs', hnone⟩ := hget
    dsimp only
    by_cases hpage : (S.key r).page = 1
    · rw [if_pos hpage]
      cases hchunk : r.chunk with
      | none =>
        have hwave : (S.key r).chunk = none := by simp [Site.key, hchunk]
        have hscan : S.firstPage r.calls (S.key r).label =
            checkTldBatches r.calls (S.sanitizeSld (S.key r).label) (S.window (S.key r)) := by
          rw [Site.firstPage, if_neg hlabel', Site.window, if_pos hpage, hwave]
          rfl
        dsimp only
        rw [Site.fastPage, hscan]
        exact pageOne_served hs' hpage hnone fun _ _ h => nomatch hwave.symm.trans h
      | some chunk =>
        have hwave : (S.key r).chunk = some (chunk, clampChunk r.chunkSize) := by
          simp [Site.key, hchunk]
        dsimp only
        rw [Site.chunkPage, firstPageChunk_eq _ hlabel']
        have hwindow : Windows.window (waveSize (clampChunk r.chunkSize)) chunk S.first =
            S.window (S.key r) := by
          rw [Site.window, if_pos hpage, hwave]
        rw [hwindow]
        refine pageOne_served hs' hpage hnone fun c size h => ?_
        obtain ⟨rfl, rfl⟩ := Prod.mk.inj (Option.some.inj (hwave.symm.trans h))
        rfl
    · rw [if_neg hpage]
      have htwo : 2 ≤ (S.key r).page := by
        have hone : 1 ≤ (S.key r).page := le_max_left 1 r.page
        omega
      obtain ⟨hread, hcatalog⟩ := getActiveTldsCached_spec hs' r.calls r.now
      have hs'' : S.Genuine
          { s' with catalog := (S.getActiveTldsCached r.calls r.now s'.catalog).2 } :=
        ⟨hs'.fits, hcatalog⟩
      exact hs''.remember r.done (laterAnswer_fits hlabel' htwo hread)
  · obtain ⟨rfl, expiry, hmem⟩ := hget
    have hfits := hs.fits _ hmem
    exact ⟨.answered _ _ _ ⟨hfits.page_one, hfits.asked, hfits.more, hfits.wave⟩ ⟨_, hmem, rfl⟩, hs⟩

theorem search_refused (h : S.sanitizeSld r.name = [] ∨ S.configured = false) :
    (S.search s r).2 = s ∧ (S.search s r).1.failed = false ∧
      ∃ e, (S.search s r).1.payload = .error e := by
  unfold Site.search
  by_cases hlabel : S.sanitizeSld r.name = []
  · rw [if_pos hlabel]
    exact ⟨rfl, rfl, _, rfl⟩
  · rw [if_neg hlabel, if_pos (by simp [h.resolve_left hlabel])]
    exact ⟨rfl, rfl, _, rfl⟩

theorem genuine_search (hs : S.Genuine s) (r : Request ε) : S.Genuine (S.search s r).2 := by
  by_cases h : S.sanitizeSld r.name = [] ∨ S.configured = false
  · rw [(search_refused h).1]
    exact hs
  · rw [not_or, Bool.not_eq_false] at h
    exact (search_served hs h.2 h.1).2

theorem genuine_run (hs : S.Genuine s) (rs : List (Request ε)) : S.Genuine (S.run s rs) := by
  induction rs generalizing s with
  | nil => exact hs
  | cons r rs ih => exact ih (genuine_search hs r)

theorem genuine_empty : S.Genuine ({} : State ι) where
  fits _ h := absurd h List.not_mem_nil
  catalog _ h := nomatch h

/-! ## A search -/

/-- What comes with the request for one page: the requests of others before it, and what is left
open about itself. -/
structure Visit (ε : Type) where
  others : List (Request ε)
  pageSize : ℕ
  now : ℚ
  done : ℚ
  calls : Calls ε

/-- The request for page `k + 1`. -/
def Visit.request (v : Visit ε) (revision : ℕ) (name : Text) (k : ℕ) : Request ε :=
  { revision, name, page := k + 1, pageSize := v.pageSize, now := v.now, done := v.done,
    calls := v.calls }

/-- The request for the wave `k` of page 1. -/
def Visit.wave (v : Visit ε) (revision : ℕ) (name : Text) (size k : ℕ) : Request ε :=
  { v.request revision name 0 with chunk := some k, chunkSize := size }

section Search

variable (S) (plan : ℕ → Visit ε) (ask : Visit ε → ℕ → Request ε) (s : State ι)

/-- The state before the `k`-th request of a search. -/
def Site.stateAt : ℕ → State ι
  | 0 => S.run s (plan 0).others
  | k + 1 => S.run (S.search (Site.stateAt k) (ask (plan k) k)).2 (plan (k + 1)).others

/-- The reply to the `k`-th request of a search, and the state that it leaves. -/
def Site.turn (k : ℕ) : Reply ι × State ι :=
  S.search (S.stateAt plan ask s k) (ask (plan k) k)

def Site.reply (k : ℕ) : Reply ι := (S.turn plan ask s k).1

end Search

/-- The reply says that no more pages are available. -/
def Reply.isLast (r : Reply ι) : Prop := ∃ p, r.payload = .ok p ∧ p.moreAvailable = false

/-- The reply says that no more waves of page 1 are to come. -/
def Reply.isLastWave (r : Reply ι) : Prop :=
  ∃ p chunk total, r.payload = .ok p ∧ p.chunk = some (chunk, total, false)

/-- Some request is answered as the last, and what was asked up to there are these extensions. -/
def Covers (reply : ℕ → Reply ι) (isLast : Reply ι → Prop) (asked : List Text → Prop) : Prop :=
  ∃ m, (∀ k < m, ¬ isLast (reply k)) ∧ isLast (reply m) ∧
    asked ((List.range (m + 1)).flatMap fun k => (reply k).asked)

variable (S) in
/-- **A search of all pages visits every extension once and ends**; a page for which a call failed
is not taken for the last and not kept; and page 1 in waves asks what page 1 asks as a whole. -/
structure Site.Exhaustive (s : State ι) (revision : ℕ) (name : Text) (plan : ℕ → Visit ε)
    (waves : ℕ → Visit ε) (size : ℕ) : Prop where
  once : Covers (S.reply plan (·.request revision name) s) Reply.isLast fun asked =>
    asked.Nodup ∧ ∀ t, t ∈ asked ↔
      t ∈ S.priority.map TldName.bare ∨ t ∈ S.catalogue.map TldName.bare
  failure : ∀ k, (∀ j < k, ¬ (S.reply plan (·.request revision name) s j).isLast) →
    (S.reply plan (·.request revision name) s k).failed = true →
      ¬ (S.reply plan (·.request revision name) s k).isLast ∧
      ∀ e ∈ (S.turn plan (·.request revision name) s k).2.cache,
        e.1 ≠ S.key ((plan k).request revision name k)
  waves : Covers (S.reply waves (·.wave revision name size) s) Reply.isLastWave fun asked =>
    asked = (S.reply plan (·.request revision name) s 0).asked

variable {plan waves : ℕ → Visit ε} {ask : Visit ε → ℕ → Request ε} {revision k n size : ℕ}
  {name : Text}

theorem genuine_stateAt (hs : S.Genuine s) (k : ℕ) : S.Genuine (S.stateAt plan ask s k) := by
  induction k with
  | zero => exact genuine_run hs _
  | succ k ih => exact genuine_run (genuine_search ih _) _

theorem turn_served (plan : ℕ → Visit ε) (ask : Visit ε → ℕ → Request ε) (k : ℕ)
    (hs : S.Genuine s) (hconf : S.configured) (hlabel : S.sanitizeSld (ask (plan k) k).name ≠ []) :
    S.Served (S.key (ask (plan k) k)) (S.turn plan ask s k).2 (S.reply plan ask s k) :=
  (search_served (genuine_stateAt hs k) hconf hlabel).1

theorem Reply.isLast_answered {p : Payload ι} {asked : List Text} {failed : Bool} :
    (Reply.mk (.ok p) asked failed).isLast ↔ p.moreAvailable = false :=
  ⟨fun ⟨p', heq, h⟩ => by rw [Except.ok.inj heq]; exact h, fun h => ⟨p, rfl, h⟩⟩

theorem Reply.not_isLast_raised {e : AppError} {asked : List Text} {failed : Bool} :
    ¬ (Reply.mk (ι := ι) (.error e) asked failed).isLast := fun ⟨_, heq, _⟩ => nomatch heq

theorem Site.Served.first (hpage : key.page = 1) (hchunk : key.chunk = none) {reply : Reply ι}
    (h : S.Served key s reply) :
    reply.asked = S.first ∧ ¬ reply.isLast ∧ (reply.failed = true → ∀ e ∈ s.cache, e.1 ≠ key) := by
  have hwindow : S.window key = S.first := by simp [Site.window, hpage, hchunk]
  cases h with
  | answered p asked failed hfits _ =>
    have hok := hfits.page_one hpage
    have hmore : S.more key = true := by simp [Site.more, hpage]
    refine ⟨(hfits.asked hok).trans hwindow, ?_, fun h => absurd (hok.symm.trans h) (by decide)⟩
    rw [Reply.isLast_answered, hfits.more hok, hmore]
    decide
  | raised e _ _ hnone => exact ⟨hwindow, Reply.not_isLast_raised, fun _ => hnone⟩

/-- A later page that no call failed for asks its window, and is the last at the end of the list;
one that a call failed for is kept. -/
theorem Site.Served.later (hpage : key.page = n + 2) {reply : Reply ι} (h : S.Served key s reply) :
    (reply.failed = false → reply.asked = Windows.window TLD_REMAINING_WINDOW n S.rest ∧
      (reply.isLast ↔ S.rest.length ≤ (n + 1) * TLD_REMAINING_WINDOW)) ∧
    ∃ e ∈ s.cache, e.1 = key := by
  cases h with
  | answered p asked failed hfits hkept =>
    refine ⟨fun hok => ⟨?_, ?_⟩, hkept⟩
    · rw [hfits.asked hok]
      simp [Site.window, hpage]
    · rw [Reply.isLast_answered, hfits.more hok]
      simp [Site.more, hpage]
  | raised e hone _ _ => omega

/-- A wave of page 1 asks its window. It is not the last before the end of page 1, and it is behind
the end. -/
theorem Site.Served.wave (hpage : key.page = 1) (hchunk : key.chunk = some (n, size))
    {reply : Reply ι} (h : S.Served key s reply) :
    reply.asked = Windows.window (waveSize size) n S.first ∧
      (reply.isLastWave → S.chunkTotal (waveSize size) ≤ n + 1) ∧
      (S.chunkTotal (waveSize size) ≤ n → reply.isLastWave) := by
  have hwindow : S.window key = Windows.window (waveSize size) n S.first := by
    simp [Site.window, hpage, hchunk]
  cases h with
  | answered p asked failed hfits _ =>
    have hok := hfits.page_one hpage
    have hwave := hfits.wave hpage n size hchunk
    refine ⟨(hfits.asked hok).trans hwindow, ?_, fun hlast => ?_⟩
    · rintro ⟨p', chunk, total, heq, hmore⟩
      cases heq
      have hdone := (Prod.mk.inj (Prod.mk.inj (Option.some.inj (hwave.symm.trans hmore))).2).2
      simpa using hdone
    · refine ⟨p, n, S.chunkTotal (waveSize size), rfl, ?_⟩
      rw [hwave, decide_eq_false (by omega)]
  | raised e _ hne _ =>
    refine ⟨hwindow, ?_, fun hlast => ?_⟩
    · rintro ⟨_, _, _, heq, _⟩
      cases heq
    · have hend := (length_first_le (S := S) size).trans
        (Nat.mul_le_mul_right (waveSize size) hlast)
      exact absurd (hwindow.trans (window_eq_nil hend)) hne

/-- The waves of page 1, up to the last one, ask what page 1 asks. -/
theorem covers_waves (hs : S.Genuine s) (hconf : S.configured) (hlabel : S.sanitizeSld name ≠ []) :
    Covers (S.reply waves (·.wave revision name size) s) Reply.isLastWave fun asked =>
      asked = S.first := by
  have hkey : ∀ k, (S.key ((waves k).wave revision name size k)).page = 1 ∧
      (S.key ((waves k).wave revision name size k)).chunk = some (k, clampChunk size) := by
    simp [Site.key, Visit.wave, Visit.request]
  have hserved := fun k =>
    (turn_served waves (·.wave revision name size) k hs hconf hlabel).wave (hkey k).1 (hkey k).2
  have hexists : ∃ m, (S.reply waves (·.wave revision name size) s m).isLastWave :=
    ⟨_, (hserved _).2.2 le_rfl⟩
  classical
  refine ⟨Nat.find hexists, fun k hk => Nat.find_min hexists hk, Nat.find_spec hexists, ?_⟩
  have hend := (hserved _).2.1 (Nat.find_spec hexists)
  have hall := flatMap_window_all ((length_first_le (S := S) (clampChunk size)).trans
    (Nat.mul_le_mul_right (waveSize (clampChunk size)) hend))
  calc (List.range (Nat.find hexists + 1)).flatMap _
    _ = (List.range (Nat.find hexists + 1)).flatMap
          fun k => Windows.window (waveSize (clampChunk size)) k S.first :=
        congrArg (List.flatMap · _) (funext fun k => (hserved k).1)
    _ = S.first := hall

theorem reply_first (plan : ℕ → Visit ε) (revision : ℕ) (hs : S.Genuine s) (hconf : S.configured)
    (hlabel : S.sanitizeSld name ≠ []) :
    (S.reply plan (·.request revision name) s 0).asked = S.first ∧
      ¬ (S.reply plan (·.request revision name) s 0).isLast ∧
      ((S.reply plan (·.request revision name) s 0).failed = true →
        ∀ e ∈ (S.turn plan (·.request revision name) s 0).2.cache,
          e.1 ≠ S.key ((plan 0).request revision name 0)) :=
  (turn_served plan (·.request revision name) 0 hs hconf hlabel).first
    (by simp [Site.key, Visit.request]) (by simp [Site.key, Visit.request])

theorem reply_later (plan : ℕ → Visit ε) (revision : ℕ) (hs : S.Genuine s) (hconf : S.configured)
    (hlabel : S.sanitizeSld name ≠ []) (k : ℕ) :
    ((S.reply plan (·.request revision name) s (k + 1)).failed = false →
      (S.reply plan (·.request revision name) s (k + 1)).asked =
          Windows.window TLD_REMAINING_WINDOW k S.rest ∧
        ((S.reply plan (·.request revision name) s (k + 1)).isLast ↔
          S.rest.length ≤ (k + 1) * 100)) ∧
      ∃ e ∈ (S.turn plan (·.request revision name) s (k + 1)).2.cache,
        e.1 = S.key ((plan (k + 1)).request revision name (k + 1)) :=
  (turn_served plan (·.request revision name) (k + 1) hs hconf hlabel).later
    (by simp [Site.key, Visit.request])

theorem laterPages_eq : S.laterPages = max 1 ((S.rest.length + 99) / 100) := rfl

/-- In a search with the property no call fails for a later page. -/
theorem Site.Exhaustive.unfailed (h : S.Exhaustive s revision name plan waves size)
    (hs : S.Genuine s) (hconf : S.configured) (hlabel : S.sanitizeSld name ≠ []) :
    ∀ k, 1 ≤ k → k ≤ S.laterPages →
      (S.reply plan (·.request revision name) s k).failed = false := by
  have hpages := laterPages_eq (S := S)
  intro k
  induction k using Nat.strong_induction_on with
  | _ k ih =>
    intro hone hle
    obtain ⟨n, rfl⟩ := Nat.exists_eq_add_of_le' hone
    by_contra hfailed
    rw [Bool.not_eq_false] at hfailed
    -- The pages before were not the last, so this one is asked for, and kept.
    have hbefore : ∀ j < n + 1, ¬ (S.reply plan (·.request revision name) s j).isLast := by
      intro j hj
      cases j with
      | zero => exact (reply_first plan revision hs hconf hlabel).2.1
      | succ j =>
        have hj' := ih (j + 1) hj (by omega) (by omega)
        rw [((reply_later plan revision hs hconf hlabel j).1 hj').2]
        omega
    obtain ⟨e, he, hkey⟩ := (reply_later plan revision hs hconf hlabel n).2
    exact (h.failure (n + 1) hbefore hfailed).2 e he hkey

/-- A search in which no call fails for a later page has the property. -/
theorem exhaustive_of_unfailed (hs : S.Genuine s) (hconf : S.configured)
    (hlabel : S.sanitizeSld name ≠ [])
    (hok : ∀ k, 1 ≤ k → k ≤ S.laterPages →
      (S.reply plan (·.request revision name) s k).failed = false) :
    S.Exhaustive s revision name plan waves size := by
  have hpages := laterPages_eq (S := S)
  have hfirst := reply_first plan revision hs hconf hlabel
  have hlater := reply_later plan revision hs hconf hlabel
  obtain ⟨n, hn⟩ := Nat.exists_eq_add_of_le' (le_max_left 1 ((S.rest.length + 99) / 100))
  have hlast : (S.reply plan (·.request revision name) s (n + 1)).isLast := by
    rw [((hlater n).1 (hok (n + 1) (by omega) (by omega))).2]
    omega
  refine ⟨⟨n + 1, fun k hk => ?_, hlast, ?_⟩, fun k hbefore hfailed => ?_, ?_⟩
  · cases k with
    | zero => exact hfirst.2.1
    | succ k =>
      rw [((hlater k).1 (hok (k + 1) (by omega) (by omega))).2]
      omega
  · have hrest : (List.range (n + 1)).flatMap
        (fun k => (S.reply plan (·.request revision name) s (k + 1)).asked) = S.rest := by
      have hend : S.rest.length ≤ (n + 1) * TLD_REMAINING_WINDOW := by
        change S.rest.length ≤ (n + 1) * 100
        omega
      rw [← flatMap_window_all hend]
      refine List.flatMap_congr fun k hk => ?_
      have hk := List.mem_range.mp hk
      exact ((hlater k).1 (hok (k + 1) (by omega) (by omega))).1
    rw [List.range_succ_eq_map, List.flatMap_cons, List.flatMap_map, hfirst.1]
    simp only [Nat.succ_eq_add_one]
    rw [hrest]
    exact ⟨nodup_pages, fun _ => mem_pages⟩
  · cases k with
    | zero => exact ⟨hfirst.2.1, hfirst.2.2 hfailed⟩
    | succ k =>
      by_cases hk : k + 1 ≤ S.laterPages
      · exact absurd ((hok (k + 1) (by omega) hk).symm.trans hfailed) (by decide)
      · exact absurd hlast (hbefore (n + 1) (by omega))
  · rw [hfirst.1]
    exact covers_waves hs hconf hlabel

/-- **Exactly when paging through a search visits every extension once**: the label is usable, the
service is configured, and no call has failed for a later page. The start is any state that
earlier requests have left. -/
theorem exhaustive_iff (S : Site ε ι) (rs : List (Request ε)) (revision : ℕ) (name : Text)
    (plan waves : ℕ → Visit ε) (size : ℕ) :
    S.Exhaustive (S.run {} rs) revision name plan waves size ↔
      S.sanitizeSld name ≠ [] ∧ S.configured ∧ ∀ k, 1 ≤ k → k ≤ S.laterPages →
        (S.reply plan (·.request revision name) (S.run {} rs) k).failed = false := by
  have hs : S.Genuine (S.run {} rs) := genuine_run genuine_empty rs
  by_cases hrefused : S.sanitizeSld name = [] ∨ S.configured = false
  · refine iff_of_false (fun h => ?_) ?_
    · obtain ⟨m, -, ⟨p, hp, -⟩, -⟩ := h.once
      obtain ⟨-, -, e, he⟩ := search_refused
        (s := S.stateAt plan (·.request revision name) (S.run {} rs) m)
        (r := (plan m).request revision name m) hrefused
      exact nomatch he.symm.trans hp
    · rintro ⟨hlabel, hconf, -⟩
      obtain h | h := hrefused
      · exact hlabel h
      · exact absurd (h.symm.trans hconf) (by decide)
  rw [not_or, Bool.not_eq_false] at hrefused
  obtain ⟨hlabel, hconf⟩ := hrefused
  constructor
  · exact fun h => ⟨hlabel, hconf, h.unfailed hs hconf hlabel⟩
  · exact fun h => exhaustive_of_unfailed hs hconf hlabel h.2.2

section Run

/-- A shop with one priority extension and one more in the catalogue. -/
def shop : Site Unit Unit where
  priority := [⟨"com".toList, by decide⟩]
  catalogue := [⟨"com".toList, by decide⟩, ⟨".net".toList, by decide⟩]
  catalogue_le := by decide
  configured := true
  lower := id
  strip := id
  lower_sld := fun _ _ => rfl
  strip_sld := fun _ _ => rfl
  firstItems := id
  restItems := id

/-- Pages of a search while the registrar refuses every check but that of `com`. -/
def outage (_ : ℕ) : Visit Unit where
  others := []
  pageSize := 50
  now := 0
  done := 0
  calls :=
    { catalogueFails := false
      check := fun _ tlds =>
        if tlds = ["com".toList] then .ok [()] else .error ⟨502, "Registrar request failed."⟩ }

/-- **A later page that fails is answered as the last one, and kept.** -/
theorem failed_page_is_last : ¬ ∀ (S : Site Unit Unit) (name : Text) (plan waves : ℕ → Visit Unit),
    S.sanitizeSld name ≠ [] → S.configured → S.Exhaustive (S.run {} []) 0 name plan waves 12 := by
  intro h
  have hlabel : shop.sanitizeSld "brand".toList ≠ [] := by decide
  have hok := (h shop "brand".toList outage outage hlabel rfl).unfailed
    (genuine_run genuine_empty []) rfl hlabel 1 le_rfl (by decide)
  exact absurd hok (by decide)

end Run

end Deltapreneur.TldSearch
