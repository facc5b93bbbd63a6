import Deltapreneur.Registrar.DnsRecords
import Mathlib.Data.List.DropRight
import Mathlib.Data.Multiset.Basic
import Mathlib.Data.Multiset.Filter

/-!
# DNS edits do what they say

When the three edits of a zone return `True` with the zone edited as asked, for every zone of at
most 500 different records, every id that was handed out and every new record, if no request
fails.

The client compares by type, host part and value. So it takes a record that another one equals in
these for one that is still there, and an update of the TTL or the priority for one that did not
happen; and it looks for a record that was created as `@` under that name, where the zone holds it
under the domain's. In each of these cases it raises after the zone has changed.

* `EditsTo`: the property of one call.
* `Zone`: distinct records, with the registrar's names for them.
* `CreateSafe`, `DeleteSafe`, `UpdateSafe`: the conditions.

Results:

* `edits_iff`: the three edits, for the ids that are handed out.
-/

namespace Deltapreneur.Dns

variable {domain name host : Text} {ids : List (RecordId × DnsRecord)}

/-! ## Names -/

/-- The names of a zone: the domain, or a host below it. -/
def ValidName (domain name : Text) : Prop :=
  name = domain ∨ ∃ host, host ≠ [] ∧ host ≠ ['@'] ∧ name = host ++ '.' :: domain

@[simp] theorem normalizeName_domain : normalizeName domain domain = [] := by
  have hsuffix : ¬ '.' :: domain <:+ domain := by
    intro h
    have hlen := h.length_le
    simp only [List.length_cons] at hlen
    omega
  simp [normalizeName, hsuffix]

@[simp] theorem normalizeName_host : normalizeName (host ++ '.' :: domain) domain = host := by
  have hlen : (host ++ '.' :: domain).length - (domain.length + 1) = host.length := by
    simp
  rw [normalizeName, if_pos (List.suffix_append host _), hlen, List.take_left']
  rfl

theorem normalizeName_of_not_full (h : ¬ Full domain name) : normalizeName name domain = name := by
  rw [Full, not_or] at h
  rw [normalizeName, if_neg h.2, if_neg h.1]

theorem not_full_nil (hdot : '.' ∈ domain) : ¬ Full domain [] := by
  rintro (h | h)
  · simp [← h] at hdot
  · simp at h

theorem not_full_at (hdot : '.' ∈ domain) : ¬ Full domain ['@'] := by
  rintro (h | h)
  · simp [← h] at hdot
  · have hlen := h.length_le
    have hpos := List.length_pos_of_mem hdot
    simp only [List.length_cons, List.length_nil] at hlen
    omega

theorem normalizeName_fullName (hdot : '.' ∈ domain) (h : name ≠ ['@']) :
    normalizeName (fullName domain name) domain = normalizeName name domain := by
  unfold fullName
  split_ifs with hempty hfull
  · obtain rfl : name = [] := hempty.resolve_right h
    rw [normalizeName_domain, normalizeName_of_not_full (not_full_nil hdot)]
  · rfl
  · rw [normalizeName_host, normalizeName_of_not_full hfull]

theorem ValidName.normalizeName_ne_at (h : ValidName domain name) :
    normalizeName name domain ≠ ['@'] := by
  obtain rfl | ⟨host, -, hat, rfl⟩ := h
  · simp
  · simpa using hat

theorem ValidName.fullName_normalizeName (hdot : '.' ∈ domain) (h : ValidName domain name)
    (hfull : ¬ Full domain (normalizeName name domain)) :
    fullName domain (normalizeName name domain) = name := by
  obtain rfl | ⟨host, hne, hat, rfl⟩ := h
  · simp [fullName]
  · rw [normalizeName_host] at hfull ⊢
    simp [fullName, hne, hat, hfull]

theorem ValidName.fullName_ne (h : ValidName domain name) (hdot : '.' ∈ domain)
    (hfull : Full domain (normalizeName name domain)) :
    fullName domain (normalizeName name domain) ≠ name := by
  obtain rfl | ⟨host, hne, hat, rfl⟩ := h
  · rw [normalizeName_domain] at hfull
    exact absurd hfull (not_full_nil hdot)
  · rw [normalizeName_host] at hfull ⊢
    intro heq
    have hlen := congrArg List.length heq
    simp [fullName, hne, hat, hfull] at hlen

theorem normalizeName_ne_at (hat : name ≠ ['@'])
    (h : fullName domain (normalizeName name domain) = fullName domain name) :
    normalizeName name domain ≠ ['@'] := by
  intro heq
  rw [heq] at h
  by_cases hfull : Full domain name
  · obtain rfl | ⟨host, rfl⟩ := hfull
    · simp at heq
    · rw [normalizeName_host] at heq
      subst heq
      have hfull : Full domain ('@' :: '.' :: domain) := .inr ⟨['@'], rfl⟩
      have hlen := congrArg List.length h
      simp [fullName, hfull] at hlen
      omega
  · exact hat ((normalizeName_of_not_full hfull).symm.trans heq)

/-! ## The property and its conditions -/

/-- A zone of at most 500 different records with full names. -/
structure Zone where
  domain : Text
  records : Multiset DnsRecord
  dotted : '.' ∈ domain
  valid : ∀ r ∈ records, ValidName domain r.name
  nodup : records.Nodup
  card_le : records.card ≤ 500

/-- **The call returns `True` and the zone has become `wanted`**; if it raises, the zone is as it
was `before`. -/
def EditsTo (call : Outcome) (before wanted : Multiset DnsRecord) : Prop :=
  call = (.ok true, wanted) ∧ ∀ e, call.1 = .error e → call.2 = before

variable (c : Client) (z : Zone)

/-- The new name is not an `@`, and the listing is not cut before a record that matches. -/
structure CreateSafe (new : DnsRecord) : Prop where
  configured : c.configured
  not_at : new.name ≠ ['@']
  listed : z.records.card < 500 ∨
    ∃ s ∈ (c.listing (new.full z.domain ::ₘ z.records)).take 500, c.recordsMatch z.domain s new

/-- No other record of the zone has the same type, host part and value, and the host part does
not itself end in the domain. -/
structure DeleteSafe (r : DnsRecord) : Prop where
  configured : c.configured
  host : ¬ Full z.domain (normalizeName r.name z.domain)
  alone : ∀ s ∈ z.records, s ≠ r → ¬ c.recordsMatch z.domain s r

/-- Besides, the new name is not an `@`, its host part stands for the name, and the new record
differs from the old one in type, host part or value. -/
structure UpdateSafe (r new : DnsRecord) : Prop extends DeleteSafe c z r where
  not_at : new.name ≠ ['@']
  newHost : fullName z.domain (normalizeName new.name z.domain) = fullName z.domain new.name
  differs : ¬ c.recordsMatch z.domain new r

/-! ## What the client reads -/

variable {c z} {q : Request} {zone : Multiset DnsRecord} {r s new : DnsRecord}

theorem present_iff (hok : ∀ q, c.error q = none) :
    c.present domain q zone r ↔ ∃ s ∈ (c.listing zone).take 500, c.recordsMatch domain s r := by
  simp [Client.present, Client.getZoneRecordsRaw, hok]

theorem present_iff_of_card_le (hok : ∀ q, c.error q = none) (hcard : zone.card ≤ 500) :
    c.present domain q zone r ↔ ∃ s ∈ zone, c.recordsMatch domain s r := by
  have hcoe := c.coe_listing zone
  have hlen : (c.listing zone).length ≤ 500 := by
    rwa [← hcoe, Multiset.coe_card] at hcard
  have hmem : ∀ s, s ∈ c.listing zone ↔ s ∈ zone := by
    intro s
    rw [← Multiset.mem_coe, hcoe]
  simp only [present_iff hok, List.take_of_length_le hlen, hmem]

theorem recordsMatch_full (hat : new.name ≠ ['@']) :
    c.recordsMatch z.domain (new.full z.domain) r ↔ c.recordsMatch z.domain new r := by
  simp only [Client.recordsMatch, DnsRecord.full, normalizeName_fullName z.dotted hat]

theorem recordsMatch_normalized (h : ¬ Full z.domain (normalizeName r.name z.domain)) :
    c.recordsMatch z.domain s (r.normalized z.domain) ↔ c.recordsMatch z.domain s r := by
  simp only [Client.recordsMatch, DnsRecord.normalized, normalizeName_of_not_full h]

theorem recordsMatch_self (r : DnsRecord) : c.recordsMatch domain r r := ⟨rfl, rfl, rfl⟩

theorem not_recordsMatch_at (hs : ValidName z.domain s.name) (hat : r.name = ['@']) :
    ¬ c.recordsMatch z.domain s r := by
  rintro ⟨-, hname, -⟩
  rw [hat, normalizeName_of_not_full (not_full_at z.dotted)] at hname
  exact hs.normalizeName_ne_at hname

/-! ## Create -/

/-- **Exactly when `create_dns_record` does what it says.** -/
theorem createDnsRecord_iff (hok : ∀ q, c.error q = none) :
    EditsTo (c.createDnsRecord z.domain new z.records) z.records
      (new.full z.domain ::ₘ z.records) ↔ CreateSafe c z new := by
  have hne : z.records ≠ new.full z.domain ::ₘ z.records := fun h => by
    have hcard := congrArg Multiset.card h
    simp at hcard
  by_cases hconf : c.configured
  swap
  · refine iff_of_false (fun h => hne ?_) fun h => hconf h.configured
    simpa [Client.createDnsRecord, hconf] using congrArg Prod.snd h.1
  have hcall : EditsTo (c.createDnsRecord z.domain new z.records) z.records
      (new.full z.domain ::ₘ z.records) ↔
        c.present z.domain .after (new.full z.domain ::ₘ z.records) new := by
    unfold Client.createDnsRecord EditsTo
    simp only [hconf, hok]
    by_cases hpresent : c.present z.domain .after (new.full z.domain ::ₘ z.records) new <;>
      simp [hpresent]
  rw [hcall]
  constructor
  · intro hpresent
    obtain ⟨s, hs, hmatch⟩ := (present_iff hok).mp hpresent
    refine ⟨hconf, fun hat => ?_, .inr ⟨s, hs, hmatch⟩⟩
    have hmem : s ∈ new.full z.domain ::ₘ z.records := by
      rw [← c.coe_listing (new.full z.domain ::ₘ z.records)]
      exact List.mem_of_mem_take hs
    refine not_recordsMatch_at ?_ hat hmatch
    obtain rfl | hold := Multiset.mem_cons.mp hmem
    · exact .inl (by simp [DnsRecord.full, fullName, hat])
    · exact z.valid s hold
  · rintro ⟨-, hat, hroom | hlisted⟩
    · have hcard : Multiset.card (new.full z.domain ::ₘ z.records) ≤ 500 := by
        rw [Multiset.card_cons]
        exact hroom
      rw [present_iff_of_card_le hok hcard]
      exact ⟨_, Multiset.mem_cons_self _ _, (recordsMatch_full hat).mpr (recordsMatch_self new)⟩
    · exact (present_iff hok).mpr hlisted

/-! ## Delete -/

theorem full_normalized (hr : r ∈ z.records)
    (hfull : ¬ Full z.domain (normalizeName r.name z.domain)) :
    (r.normalized z.domain).full z.domain = r := by
  have hname := (z.valid r hr).fullName_normalizeName z.dotted hfull
  simp [DnsRecord.full, DnsRecord.normalized, hname]

theorem full_normalized_ne (hr : r ∈ z.records)
    (hfull : Full z.domain (normalizeName r.name z.domain)) :
    (r.normalized z.domain).full z.domain ≠ r := fun h =>
  (z.valid r hr).fullName_ne z.dotted hfull (congrArg DnsRecord.name h)

/-- **Exactly when `delete_dns_record` does what it says**, for a record of the zone. -/
theorem deleteDnsRecord_iff (hok : ∀ q, c.error q = none) (hr : r ∈ z.records) :
    EditsTo (c.deleteDnsRecord z.domain (.copy r) z.records) z.records (z.records.erase r) ↔
      DeleteSafe c z r := by
  have hgone : r ∉ z.records.erase r := z.nodup.notMem_erase
  by_cases hconf : c.configured
  swap
  · refine iff_of_false (fun h => hgone ?_) fun h => hconf h.configured
    have hsame : z.records = z.records.erase r := by
      simpa [Client.deleteDnsRecord, hconf] using congrArg Prod.snd h.1
    rwa [← hsame]
  have hcall : EditsTo (c.deleteDnsRecord z.domain (.copy r) z.records) z.records
      (z.records.erase r) ↔
        c.present z.domain .before z.records (r.normalized z.domain) ∧
        ¬ c.present z.domain .after
          (z.records.erase ((r.normalized z.domain).full z.domain)) (r.normalized z.domain) ∧
        z.records.erase ((r.normalized z.domain).full z.domain) = z.records.erase r := by
    unfold Client.deleteDnsRecord EditsTo
    simp only [hconf, hok]
    by_cases hbefore : c.present z.domain .before z.records (r.normalized z.domain)
    · by_cases hafter : c.present z.domain .after
          (z.records.erase ((r.normalized z.domain).full z.domain)) (r.normalized z.domain) <;>
        simp [hbefore, hafter]
    · simp [hbefore]
  rw [hcall]
  constructor
  · rintro ⟨-, hafter, herase⟩
    have hfull : ¬ Full z.domain (normalizeName r.name z.domain) := by
      intro hfull
      -- Another record would have been removed, and this one would still be there.
      refine hgone ?_
      rw [← herase]
      exact (Multiset.mem_erase_of_ne (full_normalized_ne hr hfull).symm).mpr hr
    refine ⟨hconf, hfull, fun s hs hne hmatch => hafter ?_⟩
    rw [herase, present_iff_of_card_le hok ((Multiset.card_erase_le).trans z.card_le)]
    exact ⟨s, (Multiset.mem_erase_of_ne hne).mpr hs, (recordsMatch_normalized hfull).mpr hmatch⟩
  · rintro ⟨-, hfull, halone⟩
    rw [full_normalized hr hfull]
    refine ⟨?_, fun hafter => ?_, rfl⟩
    · rw [present_iff_of_card_le hok z.card_le]
      exact ⟨r, hr, (recordsMatch_normalized hfull).mpr (recordsMatch_self r)⟩
    · rw [present_iff_of_card_le hok ((Multiset.card_erase_le).trans z.card_le)] at hafter
      obtain ⟨s, hs, hmatch⟩ := hafter
      obtain ⟨hne, hs⟩ := z.nodup.mem_erase_iff.mp hs
      exact halone s hs hne ((recordsMatch_normalized hfull).mp hmatch)

/-! ## Update -/

/-- What `update_dns_record` requires of the zone that it reads before and after. -/
theorem updateDnsRecord_eq_ok (hok : ∀ q, c.error q = none) (hconf : c.configured)
    {after wanted : Multiset DnsRecord}
    (hafter : ((new.normalized z.domain).full z.domain ::ₘ z.records).erase
      ((r.normalized z.domain).full z.domain) = after) :
    EditsTo (c.updateDnsRecord z.domain (.copy r) new z.records) z.records wanted ↔
      c.present z.domain .before z.records (r.normalized z.domain) ∧
      ¬ c.present z.domain .after after (r.normalized z.domain) ∧
      c.present z.domain .after after (new.normalized z.domain) ∧ after = wanted := by
  unfold Client.updateDnsRecord EditsTo
  simp only [hconf, hok, hafter]
  by_cases hbefore : c.present z.domain .before z.records (r.normalized z.domain)
  · by_cases hold : c.present z.domain .after after (r.normalized z.domain)
    · simp [hbefore, hold]
    · by_cases hnew : c.present z.domain .after after (new.normalized z.domain) <;>
        simp [hbefore, hold, hnew]
  · simp [hbefore]

/-- **Exactly when `update_dns_record` does what it says**, for a record of the zone. -/
theorem updateDnsRecord_iff (hok : ∀ q, c.error q = none) (hr : r ∈ z.records)
    (hconf : c.configured) :
    EditsTo (c.updateDnsRecord z.domain (.copy r) new z.records) z.records
      (new.full z.domain ::ₘ z.records.erase r) ↔ UpdateSafe c z r new := by
  have hcard : (new.full z.domain ::ₘ z.records.erase r).card ≤ 500 := by
    rw [Multiset.card_cons, Multiset.card_erase_add_one hr]
    exact z.card_le
  rw [updateDnsRecord_eq_ok hok hconf rfl]
  constructor
  · rintro ⟨hbefore, hold, hnew, hzone⟩
    rw [hzone] at hold hnew
    have hfull : ¬ Full z.domain (normalizeName r.name z.domain) := by
      intro hfull
      have hmem : r ∈ new.full z.domain ::ₘ z.records.erase r := by
        rw [← hzone, Multiset.mem_erase_of_ne (full_normalized_ne hr hfull).symm]
        exact Multiset.mem_cons_of_mem hr
      -- The new record is the old one, so the zone is as it was and the old one is still there.
      have heq : r = new.full z.domain :=
        (Multiset.mem_cons.mp hmem).resolve_right z.nodup.notMem_erase
      rw [← heq, Multiset.cons_erase hr] at hold
      rw [present_iff hok] at hbefore hold
      exact hold hbefore
    rw [full_normalized hr hfull, Multiset.erase_cons_tail_of_mem hr, Multiset.cons_inj_left]
      at hzone
    rw [present_iff_of_card_le hok hcard] at hold hnew
    simp only [recordsMatch_normalized hfull] at hold
    have hat : new.name ≠ ['@'] := by
      intro hat
      obtain ⟨s, hs, hmatch⟩ := hnew
      have hname : (new.normalized z.domain).name = ['@'] := by
        simp [DnsRecord.normalized, hat, normalizeName_of_not_full (not_full_at z.dotted)]
      refine not_recordsMatch_at ?_ hname hmatch
      obtain rfl | hs := Multiset.mem_cons.mp hs
      · exact .inl (by simp [DnsRecord.full, fullName, hat])
      · exact z.valid s (Multiset.mem_of_mem_erase hs)
    refine ⟨⟨hconf, hfull, fun s hs hne hmatch => hold ⟨s, ?_, hmatch⟩⟩, hat,
      congrArg DnsRecord.name hzone, fun hmatch => hold ⟨_, Multiset.mem_cons_self _ _, ?_⟩⟩
    · exact Multiset.mem_cons_of_mem ((Multiset.mem_erase_of_ne hne).mpr hs)
    · exact (recordsMatch_full hat).mpr hmatch
  · rintro ⟨⟨-, hfull, halone⟩, hat, hhost, hdiffers⟩
    have hsent : (new.normalized z.domain).full z.domain = new.full z.domain := by
      simp [DnsRecord.full, DnsRecord.normalized, hhost]
    rw [full_normalized hr hfull, hsent, Multiset.erase_cons_tail_of_mem hr]
    rw [present_iff_of_card_le hok z.card_le, present_iff_of_card_le hok hcard,
      present_iff_of_card_le hok hcard]
    simp only [recordsMatch_normalized hfull]
    refine ⟨⟨r, hr, recordsMatch_self r⟩, ?_, ⟨_, Multiset.mem_cons_self _ _, ?_⟩, trivial⟩
    · rintro ⟨s, hs, hmatch⟩
      obtain rfl | hs := Multiset.mem_cons.mp hs
      · exact hdiffers ((recordsMatch_full hat).mp hmatch)
      · obtain ⟨hne, hs⟩ := z.nodup.mem_erase_iff.mp hs
        exact halone s hs hne hmatch
    · have hne := normalizeName_ne_at hat hhost
      refine ⟨rfl, ?_, rfl⟩
      rw [DnsRecord.full, DnsRecord.normalized, ← hhost, normalizeName_fullName z.dotted hne]

/-! ## The three edits -/

theorem getDnsRecords_spec (hok : ∀ q, c.error q = none) (hconf : c.configured)
    (hids : c.getDnsRecords z.records = .ok ids) {p} (hp : p ∈ ids) :
    p.2 ∈ z.records ∧ p.1 = .copy p.2 := by
  simp only [Client.getDnsRecords, hconf, hok, Bool.not_true, Bool.false_eq_true, if_false,
    Except.ok.injEq] at hids
  subst hids
  obtain ⟨r, hr, rfl⟩ := List.mem_map.mp hp
  refine ⟨?_, rfl⟩
  rw [← c.coe_listing z.records]
  exact List.mem_of_mem_take hr

theorem ValidName.dotted (hdot : '.' ∈ domain) (h : ValidName domain name) : '.' ∈ name := by
  obtain rfl | ⟨host, -, -, rfl⟩ := h
  · exact hdot
  · simp

theorem getDnsRecords_mock (hconf : ¬ c.configured) (hids : c.getDnsRecords z.records = .ok ids) {p}
    (hp : p ∈ ids) : p.2 ∉ z.records := by
  simp only [Client.getDnsRecords, hconf, Bool.not_false, if_true, Except.ok.injEq] at hids
  subst hids
  intro hmem
  have hdot := (z.valid p.2 hmem).dotted z.dotted
  simp only [List.mem_cons, List.not_mem_nil, or_false] at hp
  obtain rfl | rfl | rfl := hp <;> exact absurd hdot (by decide)

/-- **Exactly when the DNS edits do what they say**: for every zone, every new record and every id
that was handed out, if no request fails. -/
theorem edits_iff (hok : ∀ q, c.error q = none) (z : Zone) (new : DnsRecord) :
    (EditsTo (c.createDnsRecord z.domain new z.records) z.records
      (new.full z.domain ::ₘ z.records) ↔ CreateSafe c z new) ∧
    ∀ ids, c.getDnsRecords z.records = .ok ids → ∀ p ∈ ids,
      (p.2 ∈ z.records ∧ EditsTo (c.deleteDnsRecord z.domain p.1 z.records) z.records
        (z.records.erase p.2) ↔ DeleteSafe c z p.2) ∧
      (p.2 ∈ z.records ∧ EditsTo (c.updateDnsRecord z.domain p.1 new z.records) z.records
        (new.full z.domain ::ₘ z.records.erase p.2) ↔ UpdateSafe c z p.2 new) := by
  refine ⟨createDnsRecord_iff hok, fun ids hids p hp => ?_⟩
  by_cases hconf : c.configured
  · obtain ⟨hmem, hid⟩ := getDnsRecords_spec hok hconf hids hp
    rw [hid, and_iff_right hmem, and_iff_right hmem]
    exact ⟨deleteDnsRecord_iff hok hmem, updateDnsRecord_iff hok hmem hconf⟩
  · have hmem := getDnsRecords_mock hconf hids hp
    exact ⟨iff_of_false (fun h => hmem h.1) fun h => hconf h.configured,
      iff_of_false (fun h => hmem h.1) fun h => hconf h.configured⟩

section Run

/-- A registrar that answers every request. -/
noncomputable def steady : Client where
  configured := true
  listing := Multiset.toList
  coe_listing := Multiset.coe_toList
  defaultLimit := 100
  error := fun _ => none
  upper := List.map Char.toUpper
  strip := fun t => (t.dropWhile Char.isWhitespace).rdropWhile Char.isWhitespace

/-- The record `www.example.com. 3600 A 10.0.0.1`. -/
def www : DnsRecord :=
  ⟨"A".toList, "www.example.com".toList, "10.0.0.1".toList, some 3600, none⟩

def exampleZone : Zone where
  domain := "example.com".toList
  records := {www}
  dotted := by decide
  valid r hr := by
    obtain rfl := Multiset.mem_singleton.mp hr
    exact .inr ⟨"www".toList, by decide, by decide, by decide⟩
  nodup := Multiset.nodup_singleton www
  card_le := by decide

/-- A record of the domain itself, named by an `@`. -/
def apex : DnsRecord := ⟨"A".toList, "@".toList, "10.0.0.2".toList, some 3600, none⟩

theorem steady_handsOut :
    steady.getDnsRecords exampleZone.records = .ok [(.copy www, www)] := by
  have hlisting : steady.listing exampleZone.records = [www] := Multiset.toList_singleton www
  show Except.ok (((steady.listing exampleZone.records).take 100).map _) = _
  rw [hlisting]
  rfl

theorem deleteSafe_www : DeleteSafe steady exampleZone www where
  configured := rfl
  host := by decide
  alone s hs hne := absurd (Multiset.mem_singleton.mp hs) hne

/-- The apex is added with an empty name; `www` is deleted, or moved to another address. -/
theorem edits_steady :
    EditsTo (steady.createDnsRecord exampleZone.domain { apex with name := [] } exampleZone.records)
      exampleZone.records
      (({ apex with name := [] } : DnsRecord).full exampleZone.domain ::ₘ exampleZone.records) ∧
    EditsTo (steady.deleteDnsRecord exampleZone.domain (.copy www) exampleZone.records)
      exampleZone.records (exampleZone.records.erase www) ∧
    EditsTo (steady.updateDnsRecord exampleZone.domain (.copy www)
        { apex with name := www.name } exampleZone.records) exampleZone.records
      (({ apex with name := www.name } : DnsRecord).full exampleZone.domain ::ₘ
        exampleZone.records.erase www) := by
  refine ⟨(edits_iff (fun _ => rfl) exampleZone { apex with name := [] }).1.mpr
    ⟨rfl, by decide, .inl (by decide)⟩, ?_⟩
  obtain ⟨hdelete, hupdate⟩ := (edits_iff (fun _ => rfl) exampleZone { apex with name := www.name }).2
    _ steady_handsOut _ (List.mem_singleton_self _)
  have hvalue : steady.strip { apex with name := www.name }.value ≠ steady.strip www.value := by
    decide
  have hsafe : UpdateSafe steady exampleZone www { apex with name := www.name } :=
    ⟨deleteSafe_www, by decide, by decide, fun hmatch => hvalue hmatch.2.2⟩
  exact ⟨(hdelete.mpr deleteSafe_www).2, (hupdate.mpr hsafe).2⟩

/-- **An `@` is added and then not found**: the call raises after the zone has changed. -/
theorem edit_raises_after_change : ¬ ∀ (c : Client) (z : Zone) (new : DnsRecord),
    (∀ q, c.error q = none) →
      EditsTo (c.createDnsRecord z.domain new z.records) z.records
        (new.full z.domain ::ₘ z.records) ∧
      ∀ ids, c.getDnsRecords z.records = .ok ids → ∀ p ∈ ids,
        EditsTo (c.deleteDnsRecord z.domain p.1 z.records) z.records (z.records.erase p.2) ∧
        EditsTo (c.updateDnsRecord z.domain p.1 new z.records) z.records
          (new.full z.domain ::ₘ z.records.erase p.2) := by
  intro h
  have hsafe := (createDnsRecord_iff fun _ => rfl).mp (h steady exampleZone apex fun _ => rfl).1
  exact hsafe.not_at rfl

end Run

end Deltapreneur.Dns
