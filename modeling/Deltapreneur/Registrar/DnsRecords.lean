import Mathlib.Data.Multiset.AddSub
import Mathlib.Data.List.Infix

/-!
# Edits of the DNS records of a domain

Model of `get_dns_records`, `create_dns_record`, `delete_dns_record` and `update_dns_record`
(`app/integrations/openprovider/client.py:2911-3215`) against a registrar that keeps a zone of
records.

* The zone holds records with full names. A request may give a name relative to the domain, as
  `@` or empty for the domain itself, or in full (`fullName`).
* A listing has an order of its own and at most `limit` records. The zone is read with the
  registrar's default limit for the customer and with `limit=500` before and after an edit.
* A record id is the base64 text of the JSON copy of the record. The text is only ever decoded
  again, so a well-formed id is modelled as the copy (`RecordId.copy`).
* Each request of a call may fail (`Client.error`), and then changes nothing.
* `op_payload` in `create_dns_record` is computed and never sent, so it is left out; the zone id
  of a request is left out as well.
-/

namespace Deltapreneur.Dns

abbrev Text := List Char

/-- A record as it is listed in a request or an answer. -/
structure DnsRecord where
  type : Text
  name : Text
  value : Text
  ttl : Option ℕ
  prio : Option ℕ
  deriving DecidableEq

inductive RecordId
  /-- A text that is not the id of a record. -/
  | text (t : Text)
  /-- The base64 text of the JSON copy of the record. -/
  | copy (r : DnsRecord)
  deriving DecidableEq

/-! ## The registrar -/

/-- The name ends in the domain. -/
def Full (domain name : Text) : Prop := name = domain ∨ '.' :: domain <:+ name

instance (domain : Text) : DecidablePred (Full domain) :=
  fun _ => inferInstanceAs (Decidable (_ ∨ _))

/-- The name that the registrar reads. -/
def fullName (domain name : Text) : Text :=
  if name = [] ∨ name = ['@'] then domain
  else if Full domain name then name
  else name ++ '.' :: domain

def DnsRecord.full (domain : Text) (r : DnsRecord) : DnsRecord :=
  { r with name := fullName domain r.name }

/-- The requests of a call, in their order. -/
inductive Request
  | zone | before | add | remove | after
  deriving DecidableEq

/-- The registrar and the string functions that the client calls. -/
structure Client where
  /-- `is_configured`. -/
  configured : Bool
  /-- The order in which a zone is listed. -/
  listing : Multiset DnsRecord → List DnsRecord
  coe_listing : ∀ zone, (listing zone : Multiset DnsRecord) = zone
  /-- How many records are listed where the request sets no limit. -/
  defaultLimit : ℕ
  /-- The text of the error, for a request that fails. -/
  error : Request → Option String
  upper : Text → Text
  strip : Text → Text

variable (c : Client)

/-- `get_dns_records`. -/
def Client.getDnsRecords (zone : Multiset DnsRecord) : Except String (List (RecordId × DnsRecord)) :=
  if !c.configured then
    .ok [(.text "mock-dns-1".toList,
        ⟨"A".toList, "@".toList, "192.168.1.1".toList, some 3600, none⟩),
      (.text "mock-dns-2".toList,
        ⟨"CNAME".toList, "www".toList, "drymortar.in".toList, some 3600, none⟩),
      (.text "mock-dns-3".toList,
        ⟨"MX".toList, "@".toList, "mail.drymortar.in".toList, some 3600, some 10⟩)]
  else match c.error .before with
    | some text => .error text
    | none => .ok (((c.listing zone).take c.defaultLimit).map fun r => (.copy r, r))

/-- `_get_zone_records_raw`: a failed request reads as an empty zone. -/
def Client.getZoneRecordsRaw (q : Request) (zone : Multiset DnsRecord) : List DnsRecord :=
  if (c.error q).isSome then [] else (c.listing zone).take 500

/-! ## The client -/

/-- `_normalize_name`. -/
def normalizeName (name domain : Text) : Text :=
  if '.' :: domain <:+ name then name.take (name.length - (domain.length + 1))
  else if name = domain then []
  else name

def DnsRecord.normalized (domain : Text) (r : DnsRecord) : DnsRecord :=
  { r with name := normalizeName r.name domain }

/-- `_records_match`. -/
def Client.recordsMatch (domain : Text) (a b : DnsRecord) : Prop :=
  c.upper a.type = c.upper b.type ∧
    normalizeName a.name domain = normalizeName b.name domain ∧
    c.strip a.value = c.strip b.value

instance (domain : Text) (a b : DnsRecord) : Decidable (c.recordsMatch domain a b) :=
  inferInstanceAs (Decidable (_ ∧ _))

/-- Whether some record that is read matches. -/
def Client.present (domain : Text) (q : Request) (zone : Multiset DnsRecord) (r : DnsRecord) :
    Prop :=
  ∃ s ∈ c.getZoneRecordsRaw q zone, c.recordsMatch domain s r

instance (domain : Text) (q : Request) (zone : Multiset DnsRecord) (r : DnsRecord) :
    Decidable (c.present domain q zone r) :=
  inferInstanceAs (Decidable (∃ s ∈ _, _))

/-- What a call returns or raises, and the zone after it. -/
abbrev Outcome := Except String Bool × Multiset DnsRecord

def notFoundOnDelete : String :=
  "DNS record not found. It may have already been deleted. Please refresh and try again."

def notFoundOnUpdate : String :=
  "DNS record not found. It may have already been modified or deleted. Please refresh and " ++
    "try again."

def partialUpdate : String :=
  "DNS record updated partially (old record remains). Please clean up manually."

/-- `create_dns_record`. -/
def Client.createDnsRecord (domain : Text) (payload : DnsRecord) (zone : Multiset DnsRecord) :
    Outcome :=
  if !c.configured then (.ok true, zone)
  else match c.error .zone, c.error .add with
    | some text, _ => (.error text, zone)
    | none, some text => (.error text, zone)
    | none, none =>
      -- The payload is sent as it came: an `@` stays an `@`.
      let zone' := payload.full domain ::ₘ zone
      if c.present domain .after zone' payload then (.ok true, zone')
      else (.error "DNS record could not be verified after adding. Please try again.", zone')

/-- `delete_dns_record`. -/
def Client.deleteDnsRecord (domain : Text) (recordId : RecordId) (zone : Multiset DnsRecord) :
    Outcome :=
  if !c.configured then (.ok true, zone)
  else match recordId, c.error .zone with
    | .text _, _ => (.error "Invalid record ID. Please try again.", zone)
    | .copy _, some text => (.error text, zone)
    | .copy target, none =>
      let clean := target.normalized domain
      if ¬ c.present domain .before zone clean then
        (.error notFoundOnDelete, zone)
      else if (c.error .remove).isSome then
        (.error "DNS service is currently unavailable. Please try again later.", zone)
      else
        let zone' := zone.erase (clean.full domain)
        if c.present domain .after zone' clean then
          (.error "DNS record could not be removed. Please try again.", zone')
        else (.ok true, zone')

/-- `update_dns_record`: the new record is added first. -/
def Client.updateDnsRecord (domain : Text) (oldRecordId : RecordId) (newPayload : DnsRecord)
    (zone : Multiset DnsRecord) : Outcome :=
  if !c.configured then (.ok true, zone)
  else match oldRecordId, c.error .zone with
    | .text _, _ => (.error "Invalid record ID. Please try again.", zone)
    | .copy _, some text => (.error text, zone)
    | .copy target, none =>
      let clean := target.normalized domain
      let payload := newPayload.normalized domain
      if ¬ c.present domain .before zone clean then
        (.error notFoundOnUpdate, zone)
      else if (c.error .add).isSome then
        (.error "Unable to update DNS record. Please try again.", zone)
      else
        let added := payload.full domain ::ₘ zone
        if (c.error .remove).isSome then
          (.error partialUpdate, added)
        else
          let zone' := added.erase (clean.full domain)
          if c.present domain .after zone' clean ∨ ¬ c.present domain .after zone' payload then
            (.error "DNS record could not be updated. Please refresh and try again.", zone')
          else (.ok true, zone')

end Deltapreneur.Dns
