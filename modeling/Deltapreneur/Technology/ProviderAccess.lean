import Deltapreneur.Lib.Json
import Deltapreneur.Lib.Run
import Deltapreneur.Lib.Url
import Mathlib.Data.Char
import Mathlib.Data.List.Infix
import Mathlib.Data.List.Lex
import Mathlib.Data.List.Sort

/-!
# Provider credentials and the access email

Model of `app/service/technology/provider_access.py`: `extract_provider_credentials` (`218-273`),
the merge into the stored credentials (`308-374`), the tests of URLs (`398-462`) and
`customer_access_email_fields` (`744-866`).

* A response is a JSON object. `none` stands for an exception, which only `urlsplit` raises.
* The stored credentials are written with sorted keys and read back, `reload`. Their encryption is
  in `StoredCredentials`.
* `Rules` holds `str` methods, the texts of numbers, lists and dictionaries, and `parse_qsl` and
  `urlencode`.
* The keys of a nested section are a set; they are taken in the order of the source.
-/

namespace Deltapreneur.ProviderAccess

open Url (Split urlsplit urlunsplit)

abbrev Text := List Char

/-- A dictionary, in the order of its members. -/
abbrev Dict := List (Text × Json)

/-! ## Tables -/

def texts (l : List String) : List Text := l.map String.toList

def SENSITIVE_CREDENTIAL_KEYS : List Text := texts
  ["access_token", "token", "api_token", "api_key", "secret", "password", "client_secret",
    "refresh_token"]

def SECRET_QUERY_KEYS : List Text := texts ["access_token", "token", "api_token", "api_key"]

def CUSTOMER_STOREFRONT_HOST : Text := "deltaosportal.deltapreneur.com".toList

def BLOCKED_PROVIDER_HOSTS : List Text := texts
  ["technologies.cobrother.com", "workspace.cobrother.com", "panel.resellportal.com",
    "resellportal.com", "www.resellportal.com"]

def CUSTOMER_EMAIL_BLOCKED_KEYS : List Text := texts
  ["access_token", "token", "api_token", "api_key", "client_secret", "refresh_token", "secret",
    "secret_key", "bearer", "bearer_token", "service_id", "subscription_id",
    "provider_subscription_id", "provider_order_id", "order_id", "client_id", "provider_client_id",
    "account_id", "instance_id", "user_id", "is_mock", "test_mode", "configured", "fallback"]

def CUSTOMER_ACCESS_URL_KEYS : List Text := texts
  ["client_access_url", "access_url", "url", "login_url", "manage_url", "cpanel_url",
    "dashboard_url", "portal_url", "webmail_url", "activation_url", "qr_code_url", "bio_url",
    "logo_url", "account_portal_url", "loginurl", "accessurl"]

def URL_KEY_PREFERENCE : List Text := texts
  ["account_portal_url", "client_access_url", "login_url", "loginurl", "access_url", "accessurl",
    "dashboard_url", "cpanel_url", "portal_url", "webmail_url", "qr_code_url", "activation_url",
    "bio_url", "url", "manage_url"]

def PLACEHOLDER_URL_HOSTS : List Text := texts
  ["example.com", "www.example.com", "example.net", "www.example.net", "example.org",
    "www.example.org", "example.test", "technologies.cobrother.com", "workspace.cobrother.com",
    "localhost", "127.0.0.1"]

def EMAIL_SKIP_METADATA_KEYS : List Text := texts
  ["custom_domain_supported", "provisioned_at", "created_at", "updated_at", "configured",
    "fallback", "is_mock", "test_mode", "test_only"]

def PLACEHOLDER_VALUE_KEYS : List Text := texts
  ["package_code", "package", "link", "server_id", "port_id", "server", "port"]

def PLACEHOLDER_FIELD_VALUES : List Text := texts
  ["test-starter", "default", "placeholder", "n/a", "na", "todo", "tbd", "none", "null",
    "https://example.com", "http://example.com"]

/-- `nested_sections`. -/
def NESTED_SECTIONS : List (Text × List Text) :=
  [("bio".toList, texts ["slug", "bio_url"]),
    ("esim_details".toList, texts ["qr_code_url", "activation_url", "iccid", "esim_status"]),
    ("plugin".toList, texts ["name", "description", "author", "license_key"]),
    ("hosting".toList, texts ["username", "domain", "password"]),
    ("phone".toList, texts ["phone_number", "country", "status"]),
    ("storage".toList, texts ["plan", "quota", "used", "status"]),
    ("email_marketing".toList, texts ["sending_plan", "status"])]

/-- The sections that are merged as a whole, with their prefixes. -/
def SECTIONS : List (Text × Text) :=
  [("credentials".toList, []), ("client_credentials".toList, "product_".toList),
    ("vpn_credentials".toList, []), ("portal_credentials".toList, "portal_".toList)]

def CREDENTIAL_FIELD_LABELS : List (Text × Text) :=
  [("client_access_url", "Service Access"), ("account_portal_url", "Portal URL"),
    ("portal_email", "Portal Email"), ("portal_password", "Portal Password"),
    ("product_email", "Product Email"), ("product_password", "Product Password"),
    ("product_username", "Product Username"), ("product_url", "Product URL"),
    ("product_login_url", "Product Login URL"), ("email", "Product Email"),
    ("password", "Product Password"), ("username", "Username"), ("user_name", "Username"),
    ("access_url", "Login URL"), ("login_url", "Login URL"), ("url", "Login URL"),
    ("manage_url", "Login URL"), ("cpanel_url", "cPanel URL"),
    ("cpanel_username", "cPanel Username"), ("dashboard_url", "Dashboard URL"),
    ("portal_url", "Portal URL"), ("webmail_url", "Webmail URL"),
    ("phone_number", "Phone Number"), ("server", "Server"), ("port", "Port"), ("iccid", "ICCID"),
    ("lpa_string", "LPA / Activation String"), ("smdp_address", "SM-DP+ Address"),
    ("license_key", "License Key"), ("activation_code", "Activation Code"),
    ("activation_key", "Activation Key"), ("access_token", "Access Token"),
    ("api_key", "API Key"), ("api_token", "API Token"), ("qr", "QR / Activation Information"),
    ("qr_code", "QR Code"), ("qr_code_url", "QR Installation URL"),
    ("activation_url", "Activation URL"), ("bio_url", "Public Page"),
    ("esim_status", "eSIM Status"), ("slug", "Slug"), ("domain", "Domain"),
    ("country", "Country"), ("status", "Status"), ("sending_plan", "Sending Plan")].map
      fun e => (e.1.toList, e.2.toList)

/-! ## Texts -/

/-- The names of fields are lower-case letters and underscores. -/
def isNameChar (c : Char) : Bool := c ∈ "abcdefghijklmnopqrstuvwxyz_".toList

/-- Methods of `str` and functions of the standard library, with what is used of them. -/
structure Rules where
  isSpace : Char → Bool
  lower : Text → Text
  title : Text → Text
  /-- `str(v)` of a number, from its token. -/
  numText : Text → Text
  /-- `str(v)` of a list or a dictionary. -/
  repr : Json → Text
  acceptsNetloc : Text → Bool
  parseQsl : Text → List (Text × Text)
  urlencode : List (Text × Text) → Text
  repr_obj : ∀ ms, (repr (.obj ms)).head? = some '{'
  repr_arr : ∀ xs, (repr (.arr xs)).head? = some '['
  removed_blank : ∀ c, Url.isRemoved c = true → isSpace c = true
  delim_plain : ∀ c, Url.isDelim c = true → isSpace c = false
  bracket_plain : isSpace '{' = false ∧ isSpace '[' = false
  name_plain : ∀ c, isNameChar c = true → isSpace c = false
  lower_name : ∀ t, (∀ c ∈ t, isNameChar c = true) → lower t = t
  acceptsNetloc_nil : acceptsNetloc [] = true

variable (R : Rules)

def Rules.strip (t : Text) : Text := Trim.strip R.isSpace t

/-- `needle in hay`. -/
def contains (hay : Text) (needle : String) : Bool := needle.toList <:+: hay

/-- `str(v)`. -/
def Rules.str : Json → Text
  | .null => "None".toList
  | .bool true => "True".toList
  | .bool false => "False".toList
  | .num token => R.numText token
  | .str s => s
  | v => R.repr v

/-- `_nonempty_str`. -/
def nonemptyStr : Json → Option Text
  | .null => none
  | v => if R.strip (R.str v) = [] then none else some (R.strip (R.str v))

/-- `value in (None, "", [], {})`. -/
def isEmpty : Json → Bool
  | .null | .str [] | .arr [] | .obj [] => true
  | _ => false

/-! ## URLs -/

/-- The tests of `is_safe_customer_url` after `urlsplit`. -/
def safeParts (parts : Split) : Bool :=
  let host := (R.lower parts.netloc).takeWhile (· ≠ ':')
  parts.scheme = "https".toList ∧ parts.netloc ≠ [] ∧
    host ∉ BLOCKED_PROVIDER_HOSTS ∧ host ∉ PLACEHOLDER_URL_HOSTS ∧
    ¬ ".example.com".toList <:+ host ∧ ¬ ".example.test".toList <:+ host ∧
    ¬ ".resellportal.com".toList <:+ host ∧ ¬ ".cobrother.com".toList <:+ host ∧
    host ≠ "cobrother.com".toList ∧ host = CUSTOMER_STOREFRONT_HOST ∧
    (["access_token", "api_token", "api_key", "token", "secret"].all fun secret =>
      !contains (R.lower parts.path) secret) ∧
    ∀ field ∈ R.parseQsl parts.query, R.lower field.1 ∉ SECRET_QUERY_KEYS

/-- `is_safe_customer_url`. -/
def isSafeCustomerUrl (url : Json) : Option Bool :=
  match nonemptyStr R url with
  | none => some false
  | some text =>
    let lower := R.lower text
    if contains lower "resellportal" ∨ contains lower "access_token=" ∨
        contains lower "api_token=" ∨ contains lower "api_key=" then some false
    else (urlsplit R.acceptsNetloc text).map (safeParts R)

/-- `_strip_secret_query`. -/
def stripSecretQuery (url : Text) : Option (Option Text) :=
  match urlsplit R.acceptsNetloc url with
  | none => none
  | some parts =>
    let query := R.parseQsl parts.query
    if contains (R.lower parts.netloc) "resellportal" ∨ contains (R.lower url) "resellportal" then
      some none
    else if query.any fun field => R.lower field.1 ∈ SECRET_QUERY_KEYS then some none
    else
      let kept := query.filter fun field => R.lower field.1 ∉ SECRET_QUERY_KEYS
      let cleaned := urlunsplit { parts with query := R.urlencode kept }
      (isSafeCustomerUrl R (.str cleaned)).map fun safe => if safe then some cleaned else none

/-! ## Extraction -/

/-- `out[key] = value`. -/
def setKey : Dict → Text → Json → Dict
  | [], key, value => [(key, value)]
  | (k, v) :: d, key, value =>
    if k = key then (k, value) :: d else (k, v) :: setKey d key value

/-- One member of a merged section: the inner function `merge`. -/
def mergeMember (keyPrefix : Text) (out : Dict) (member : Text × Json) : Option Dict :=
  let key := R.strip member.1
  let keyLower := R.lower key
  let taken := setKey out (keyPrefix ++ key) member.2
  if key = [] ∨ keyLower ∈ CUSTOMER_EMAIL_BLOCKED_KEYS then some out
  else if keyLower ∈ SENSITIVE_CREDENTIAL_KEYS ∧ keyLower ≠ "password".toList then some out
  else match member.2 with
    | .str s =>
      if keyLower ∈ CUSTOMER_ACCESS_URL_KEYS then
        (isSafeCustomerUrl R (.str s)).map fun safe => if safe then taken else out
      else some taken
    | _ => some taken

def mergeSection (payload out : Dict) (sect : Text × Text) : Option Dict :=
  match Json.get? payload sect.1 with
  | some (.obj members) => members.foldlM (mergeMember R sect.2) out
  | _ => some out

/-- A link at the top of the response. -/
def mergeLink (payload out : Dict) (source target : Text) : Option Dict :=
  match nonemptyStr R ((Json.get? payload source).getD .null) with
  | none => some out
  | some text =>
    (isSafeCustomerUrl R (.str text)).map fun safe =>
      if safe then setKey out target (.str text) else out

def mergeNestedKey (sect out : Dict) (key : Text) : Option Dict :=
  let value := (Json.get? sect key).getD .null
  if isEmpty value then some out
  else if key ∈ CUSTOMER_ACCESS_URL_KEYS then
    (isSafeCustomerUrl R value).map fun safe => if safe then setKey out key value else out
  else some (setKey out key value)

def mergeNested (payload out : Dict) (sect : Text × List Text) : Option Dict :=
  match Json.get? payload sect.1 with
  | some (.obj members) => sect.2.foldlM (mergeNestedKey R members) out
  | _ => some out

/-- `extract_provider_credentials`. -/
def extractProviderCredentials (payload : Dict) : Option Dict := do
  let out ← SECTIONS.foldlM (mergeSection R payload) []
  let out ← mergeLink R payload out "client_access_url".toList "client_access_url".toList
  let out ← mergeLink R payload out "portal_login_url".toList "account_portal_url".toList
  NESTED_SECTIONS.foldlM (mergeNested R payload) out

/-! ## The stored credentials -/

/-- `merge_provider_credentials`, one part. -/
def mergePart (merged part : Dict) : Dict :=
  part.foldl (fun merged e => if isEmpty e.2 then merged else setKey merged e.1 e.2) merged

def byKey (a b : Text × Json) : Prop := a.1 ≤ b.1

instance : DecidableRel byKey := fun a b => inferInstanceAs (Decidable (a.1 ≤ b.1))

mutual

/-- A value with its keys in order. -/
def sortKeys : Json → Json
  | .arr items => .arr (sortItems items)
  | .obj members => .obj ((sortMembers members).insertionSort byKey)
  | v => v

def sortItems : List Json → List Json
  | [] => []
  | x :: xs => sortKeys x :: sortItems xs

def sortMembers : List (Text × Json) → List (Text × Json)
  | [] => []
  | (k, x) :: ms => (k, sortKeys x) :: sortMembers ms

end

/-- `load_provider_credentials(dump_provider_credentials(creds))`. -/
def reload (creds : Dict) : Dict := (sortMembers creds).insertionSort byKey

/-- The credentials of a response merged into the stored ones; an exception leaves them. -/
def mergeSubscriptionCredentials (stored payload : Dict) : Dict :=
  match extractProviderCredentials R payload with
  | some creds => reload (mergePart (mergePart [] stored) creds)
  | none => stored

/-! ## The email -/

/-- `_stringify_credential_value`. -/
def stringify : Json → Text
  | .bool true => "true".toList
  | .bool false => "false".toList
  | .arr items => Json.dumps (.arr items)
  | .obj members => Json.dumps (.obj members)
  | v => R.str v

/-- `_is_blocked_email_key`. -/
def isBlockedEmailKey (keyLower : Text) : Bool :=
  keyLower ∈ CUSTOMER_EMAIL_BLOCKED_KEYS ∨ keyLower ∈ EMAIL_SKIP_METADATA_KEYS ∨
    "_token".toList <:+ keyLower ∨ "_secret".toList <:+ keyLower ∨ "_api_key".toList <:+ keyLower

/-- `_is_placeholder_credential`. -/
def isPlaceholderCredential (keyLower rendered : Text) : Bool :=
  let lower := R.lower (R.strip rendered)
  (keyLower ∈ PLACEHOLDER_VALUE_KEYS ∧ (lower ∈ PLACEHOLDER_FIELD_VALUES ∨
      contains lower "example.com" ∨ contains lower "example.test")) ∨
    keyLower ∈ texts ["server_id", "port_id", "server", "port"] ∧ lower ∈ texts ["0", "test"]

/-- `_is_test_only_production_value`; `production` is the environment. -/
def isTestOnlyProductionValue (production : Bool) (rendered : Text) : Bool :=
  let lower := R.lower (R.strip rendered)
  production ∧ (contains lower "@example.com" ∨ contains lower "@example.test" ∨
    contains lower "test-starter")

/-- `humanize_credential_key` of a key that is not blank. -/
def humanizeCredentialKey (key : Text) : Text :=
  (CREDENTIAL_FIELD_LABELS.lookup (R.lower key)).getD
    (R.title (key.map fun c => if c = '_' ∨ c = '-' then ' ' else c))

structure Field where
  key : Text
  label : Text
  value : Text
  sectionName : Text
  deriving Repr, DecidableEq

/-- `section_for`. -/
def sectionFor (keyLower : Text) : Text :=
  if "portal_".toList <+: keyLower ∨ keyLower = "account_portal_url".toList then
    "Portal login".toList
  else "Product access".toList

/-- The variables of the loop over the credentials. -/
structure Draft where
  fields : List Field
  urlCandidates : List (Text × Text)
  seenUrlValues : List Text
  deriving Repr, DecidableEq

/-- `url_candidates[key] = url`. -/
def setUrl : List (Text × Text) → Text → Text → List (Text × Text)
  | [], key, url => [(key, url)]
  | (k, u) :: rest, key, url => if k = key then (k, url) :: rest else (k, u) :: setUrl rest key url

/-- A value that the loop passes over before it looks at the key again. -/
def isBlank : Json → Bool
  | .null | .arr [] | .obj [] => true
  | .str s => R.strip s = []
  | _ => false

/-- One round of the loop. -/
def draftMember (production : Bool) (d : Draft) (member : Text × Json) : Option Draft :=
  let key := R.strip member.1
  let keyLower := R.lower key
  let rendered := stringify R member.2
  let field value : Field := ⟨key, humanizeCredentialKey R key, value, sectionFor keyLower⟩
  if key = [] ∨ isBlockedEmailKey keyLower then some d
  else if isBlank R member.2 then some d
  else if "bearer ".toList <+: R.lower rendered then some d
  else if contains (R.lower rendered) "resellportal" then some d
  else if isPlaceholderCredential R keyLower rendered then some d
  else if isTestOnlyProductionValue R production rendered then some d
  else if keyLower ∈ CUSTOMER_ACCESS_URL_KEYS then
    match stripSecretQuery R rendered with
    | none => none
    | some none => some d
    | some (some cleaned) =>
      let candidates := setUrl d.urlCandidates keyLower cleaned
      if R.lower cleaned ∈ d.seenUrlValues then some { d with urlCandidates := candidates }
      else some ⟨d.fields ++ [field cleaned], candidates, d.seenUrlValues ++ [R.lower cleaned]⟩
  else some { d with fields := d.fields ++ [field rendered] }

/-- `_pick_login_url`. -/
def pickLoginUrl (candidates : List (Text × Text)) : Option Text :=
  ((URL_KEY_PREFERENCE.filterMap fun key => candidates.lookup key).head?).orElse fun _ =>
    (candidates.map Prod.snd).head?

/-- `customer_access_email_fields`. -/
def customerAccessEmailFields (production : Bool) (creds : Dict) :
    Option (List Field × Option Text) :=
  (creds.foldlM (draftMember R production) ⟨[], [], []⟩).map fun d =>
    (d.fields, pickLoginUrl d.urlCandidates)

end Deltapreneur.ProviderAccess
