import Deltapreneur.Lib.PyValue
import Mathlib.Data.Char
import Mathlib.Data.List.Lex
import Mathlib.Data.List.MinMax
import Mathlib.Data.List.Sort

/-!
# Orders at the provider

Model of `app/service/resellportal/product_mapper.py`: the validator of the customer's input, the
builders of the order's parameters, and steps 3 and 4 of `_process`
(`app/service/technology/technology_subscription_retry_service.py:261-303`), where a paid
subscription is validated and ordered. The checkout of a cart (`cart_checkout_service.py:3023-3211`)
calls the two in the same way.

* A slug of the catalogue and a product key are enumerations, since `PRODUCT_KEY_MAP` is
  authoritative for them; the metadata is any dictionary of JSON values.
* `Complete`: the order has what one of the groups of `REQUIRED_INPUT_KEYS` asks for.

Results:

* `order_complete_iff`: the order of an accepted input is complete, unless it is for social media
  growth and the quantity is no positive integer.
* `quantity_dropped`: such an order, sent without its quantity.
-/

namespace Deltapreneur.ProductMapper

open PyValue

abbrev Text := List Char

/-- A metadata dictionary. -/
abbrev Meta := List (Text × PyValue)

/-! ## Tables -/

/-- The slugs of `PRODUCT_KEY_MAP`. -/
inductive Slug
  | aiBusinessSuite | websiteBuilder | webHosting | cloudStorage | emailMarketing | esim | smmGrowth
  | vpn | crm | invoiceAi | appointmentBooking | documentSigner | businessPhone
  | socialMediaAutomation | reputationManagement | linkInBio | wordpressPluginPack
  deriving Repr, DecidableEq

inductive ProductKey
  | aiBusinessTools | websiteBuilder | webHosting | cloudStorage | emailMarketing | esim | smm
  | vpn | crm | invoiceAi | appointments | docsign | businessPhone
  | socialMediaAutomation | reputationManagement | linkInBio | wpPluginInstaller
  deriving Repr, DecidableEq

/-- `PRODUCT_KEY_MAP`. -/
def PRODUCT_KEY_MAP : Slug → ProductKey
  | .aiBusinessSuite => .aiBusinessTools
  | .websiteBuilder => .websiteBuilder
  | .webHosting => .webHosting
  | .cloudStorage => .cloudStorage
  | .emailMarketing => .emailMarketing
  | .esim => .esim
  | .smmGrowth => .smm
  | .vpn => .vpn
  | .crm => .crm
  | .invoiceAi => .invoiceAi
  | .appointmentBooking => .appointments
  | .documentSigner => .docsign
  | .businessPhone => .businessPhone
  | .socialMediaAutomation => .socialMediaAutomation
  | .reputationManagement => .reputationManagement
  | .linkInBio => .linkInBio
  | .wordpressPluginPack => .wpPluginInstaller

/-- `resolve_product_key` of a slug of the catalogue; the configured key is not looked at. -/
def resolveProductKey (slug : Slug) : ProductKey := PRODUCT_KEY_MAP slug

/-- The keys that `REQUIRED_INPUT_KEYS` names. -/
inductive InputKey
  | aiTools | areaCode | phoneNumber | storagePlan | companyName | sendingPlan | selectedPlan
  | planCode | subdomain | serviceId | link | quantity | packageCode | primaryDomain | pluginName
  | author | description | logoUrl
  deriving Repr, DecidableEq

def InputKey.text : InputKey → Text
  | .aiTools => "aiTools".toList
  | .areaCode => "areaCode".toList
  | .phoneNumber => "phoneNumber".toList
  | .storagePlan => "storagePlan".toList
  | .companyName => "companyName".toList
  | .sendingPlan => "sendingPlan".toList
  | .selectedPlan => "selectedPlan".toList
  | .planCode => "planCode".toList
  | .subdomain => "subdomain".toList
  | .serviceId => "serviceId".toList
  | .link => "link".toList
  | .quantity => "quantity".toList
  | .packageCode => "packageCode".toList
  | .primaryDomain => "primaryDomain".toList
  | .pluginName => "pluginName".toList
  | .author => "author".toList
  | .description => "description".toList
  | .logoUrl => "logoUrl".toList

/-- `REQUIRED_INPUT_KEYS`: the groups, any one of which is enough. -/
def REQUIRED_INPUT_KEYS : Slug → List (List InputKey)
  | .aiBusinessSuite => [[.aiTools]]
  | .businessPhone => [[.areaCode], [.phoneNumber]]
  | .cloudStorage => [[.storagePlan]]
  | .documentSigner => [[.companyName]]
  | .emailMarketing => [[.sendingPlan], [.selectedPlan], [.planCode]]
  | .invoiceAi | .appointmentBooking => [[.subdomain]]
  | .smmGrowth => [[.serviceId, .link, .quantity]]
  | .esim => [[.packageCode]]
  | .webHosting => [[.primaryDomain]]
  | .wordpressPluginPack => [[.pluginName, .author, .description, .logoUrl]]
  | _ => []

/-- The parameters of an order. -/
inductive Param
  | aiTools | primaryDomain | cpanelUsername | plan | storagePlan | sendingPlan | packageCode
  | serviceId | link | quantity | vpnUsername | businessName | subdomain | logoUrl | primaryColor
  | secondaryColor | companyName | phoneNumber | areaCode | pluginName | author | description
  deriving Repr, DecidableEq

abbrev Params := List (Param × PyValue)

/-- `_EMAIL_MARKETING_PLANS`. -/
def EMAIL_MARKETING_PLANS : List Text :=
  ["starter".toList, "growth".toList, "pro".toList, "business".toList]

/-- `_CLOUD_STORAGE_PLANS`. -/
def CLOUD_STORAGE_PLANS : List Text :=
  ["50gb".toList, "100gb".toList, "200gb".toList, "500gb".toList, "1tb".toList, "2tb".toList]

/-- `_MULTI_LABEL_TLDS`. -/
def MULTI_LABEL_TLDS : List String :=
  ["co.in", "co.uk", "co.jp", "co.nz", "co.za", "com.au", "com.br", "com.cn", "com.hk", "com.mx",
    "com.sg", "com.tr", "net.au", "net.nz", "org.uk", "org.au", "org.nz", "gov.uk", "ac.uk",
    "co.kr", "com.tw", "com.vn", "com.my", "com.ph", "com.pk", "com.eg", "com.sa", "co.ke",
    "co.tz", "com.ng", "com.ar", "com.co", "com.pe", "com.uy", "com.ve", "com.ec", "com.gt",
    "com.ni", "com.do", "com.pr", "com.jm", "com.tt", "com.lk"]

/-- `_CPANEL_MAX_LEN`. -/
def CPANEL_MAX_LEN : ℕ := 20

/-! ## Reading the metadata -/

variable (L : Lang)

/-- `_coerce_str_list`. -/
def coerceStrList : PyValue → List Text
  | .str s => if L.strip s = [] then [] else [L.strip s]
  | .list items => (items.filter fun item => L.text item ≠ []).map fun item => L.strip (L.str item)
  | _ => []

/-- A value that `_metadata_value` takes. -/
def given : PyValue → Bool
  | .none => false
  | v => L.strip (L.str v) ≠ []

/-- `_metadata_value`. -/
def metadataValue (m : Meta) (keys : List Text) : PyValue :=
  ((keys.map (get m)).find? (given L)).getD .none

/-- `_email_marketing_plan`. -/
def emailMarketingPlan (planCode : Text) (m : Meta) : Text :=
  let value := metadataValue L m ["sendingPlan".toList, "sending_plan".toList, "planCode".toList,
    "selectedPlan".toList, "plan_code".toList]
  let sendingPlan := L.lower (L.text (value.orElse (.str planCode)))
  if sendingPlan ∈ EMAIL_MARKETING_PLANS then sendingPlan else []

/-- The storage plan that both the validator and the builder read. -/
def storagePlanOf (m : Meta) : Text :=
  L.lower (L.text ((get m "storagePlan".toList).orElse (get m "storage_plan".toList)))

/-- The tools that both read. -/
def aiToolsOf (m : Meta) : List Text :=
  coerceStrList L ((get m "aiTools".toList).orElse (get m "ai_tools".toList))

/-- `re.sub(r"^[a-z]+://", "", domain)`. -/
def dropScheme (domain : Text) : Text :=
  let rest := domain.dropWhile fun c => 'a' ≤ c ∧ c ≤ 'z'
  if rest.length < domain.length ∧ "://".toList <+: rest then rest.drop 3 else domain

/-- `derive_cpanel_username`. -/
def deriveCpanelUsername (primaryDomain : Text) : Text :=
  let path := dropScheme (L.lower (L.strip primaryDomain))
  let domain := (path.takeWhile (· ≠ '/')).rdropWhile (· = '.')
  if '.' ∉ domain then []
  else
    let labels := domain.splitOn '.'
    let suffix := String.ofList (['.'].intercalate (labels.drop (labels.length - 2)))
    let base := if 3 ≤ labels.length ∧ suffix ∈ MULTI_LABEL_TLDS then labels.dropLast.dropLast
      else labels.dropLast
    ((base.getLastD []).filter fun c => ('a' ≤ c ∧ c ≤ 'z') ∨ ('0' ≤ c ∧ c ≤ '9')).take
      CPANEL_MAX_LEN

/-! ## Builders -/

/-- A parameter that is left out where the text is empty. -/
def param (p : Param) (value : Text) : Params := if value = [] then [] else [(p, .str value)]

/-- `str(meta.get(key) or "").strip()` under a parameter. -/
def field (m : Meta) (key : String) (p : Param) : Params := param p (L.text (get m key.toList))

def buildAiBusinessToolsParams (m : Meta) : Params :=
  if aiToolsOf L m = [] then [] else [(.aiTools, .list ((aiToolsOf L m).map .str))]

def buildWebHostingParams (planCode : Text) (m : Meta) : Params :=
  let primaryDomain := L.lower (L.text (get m "primaryDomain".toList))
  let cpanelUsername := L.text (get m "cpanelUsername".toList)
  let plan := L.lower (L.text ((get m "plan".toList).orElse (.str planCode)))
  param .primaryDomain primaryDomain ++
    param .cpanelUsername
      (if cpanelUsername ≠ [] then cpanelUsername
      else if primaryDomain ≠ [] then deriveCpanelUsername L primaryDomain
      else []) ++
    if primaryDomain ≠ [] then param .plan plan else []

def buildCloudStorageParams (m : Meta) : Params :=
  if storagePlanOf L m ∈ CLOUD_STORAGE_PLANS then [(.storagePlan, .str (storagePlanOf L m))] else []

def buildEmailMarketingParams (planCode : Text) (m : Meta) : Params :=
  param .sendingPlan (emailMarketingPlan L planCode m)

def buildEsimParams (m : Meta) : Params := field L m "packageCode" .packageCode

/-- The quantity, 0 where `int` raises. -/
def quantityOf (m : Meta) : ℤ :=
  (L.toInt ((get m "quantity".toList).orElse (.int 0))).getD 0

def buildSmmParams (m : Meta) : Params :=
  field L m "serviceId" .serviceId ++ field L m "link" .link ++
    if 0 < quantityOf L m then [(.quantity, .int (quantityOf L m))] else []

def buildVpnParams (m : Meta) : Params := field L m "vpnUsername" .vpnUsername

def buildCrmParams (m : Meta) : Params := field L m "businessName" .businessName

def buildInvoiceAiParams (m : Meta) : Params :=
  field L m "subdomain" .subdomain ++ field L m "businessName" .businessName ++
    field L m "logoUrl" .logoUrl ++ field L m "primaryColor" .primaryColor

def buildAppointmentsParams (m : Meta) : Params :=
  buildInvoiceAiParams L m ++ field L m "secondaryColor" .secondaryColor

def buildDocsignParams (m : Meta) : Params :=
  param .companyName
    (L.text ((get m "companyName".toList).orElse (get m "company_name".toList)))

def buildBusinessPhoneParams (m : Meta) : Params :=
  if L.text (get m "phoneNumber".toList) ≠ [] then field L m "phoneNumber" .phoneNumber
  else field L m "areaCode" .areaCode

def buildWpPluginInstallerParams (m : Meta) : Params :=
  field L m "pluginName" .pluginName ++ field L m "author" .author ++
    field L m "description" .description ++ field L m "logoUrl" .logoUrl

/-- `PARAM_BUILDERS[product_key](plan_code, billing_cycle, metadata)`. -/
def paramBuilder (key : ProductKey) (planCode _billingCycle : Text) (m : Meta) : Params :=
  match key with
  | .aiBusinessTools => buildAiBusinessToolsParams L m
  | .webHosting => buildWebHostingParams L planCode m
  | .cloudStorage => buildCloudStorageParams L m
  | .emailMarketing => buildEmailMarketingParams L planCode m
  | .esim => buildEsimParams L m
  | .smm => buildSmmParams L m
  | .vpn => buildVpnParams L m
  | .crm => buildCrmParams L m
  | .invoiceAi => buildInvoiceAiParams L m
  | .appointments => buildAppointmentsParams L m
  | .docsign => buildDocsignParams L m
  | .businessPhone => buildBusinessPhoneParams L m
  | .wpPluginInstaller => buildWpPluginInstallerParams L m
  | .websiteBuilder | .socialMediaAutomation | .reputationManagement | .linkInBio => []

/-- `build_order_parameters`. No builder sets a parameter to `None`, which this would drop. -/
def buildOrderParameters (key : ProductKey) (planCode billingCycle : Text) (m : Meta) : Params :=
  (paramBuilder L key planCode billingCycle m).filter fun p => !p.2.isNone

/-! ## The validator and the order -/

/-- Each key of the group has a value that is neither false nor blank. -/
def groupGiven (m : Meta) (group : List InputKey) : Bool :=
  group.all fun k => L.text (metadataValue L m [k.text]) ≠ []

/-- `validate_order_input`. -/
def validateOrderInput (slug : Slug) (m : Meta) : Bool × List Text :=
  match slug with
  | .aiBusinessSuite => if aiToolsOf L m ≠ [] then (true, []) else (false, ["aiTools".toList])
  | .cloudStorage =>
    if storagePlanOf L m ∈ CLOUD_STORAGE_PLANS then (true, []) else (false, ["storagePlan".toList])
  | .emailMarketing =>
    if emailMarketingPlan L [] m ≠ [] then (true, []) else (false, ["sendingPlan".toList])
  | _ =>
    let groups := REQUIRED_INPUT_KEYS slug
    if groups = [] ∨ groups.any (groupGiven L m) then (true, [])
    else
      (false, (((groups.argmin List.length).getD []).map InputKey.text).insertionSort (· ≤ ·))

/-- What `_process` reads of a subscription; `provisionInput` is `_subscription_metadata`. -/
structure Subscription where
  serviceSlug : Slug
  planCode : Text
  billingCycle : Text
  provisionInput : Meta

/-- `metadata.setdefault(key, value)`. -/
def setDefault (m : Meta) (key : Text) (value : PyValue) : Meta :=
  if (m.lookup key).isSome then m else m ++ [(key, value)]

def Subscription.metadata (sub : Subscription) : Meta :=
  setDefault (setDefault sub.provisionInput "selectedPlan".toList (.str sub.planCode))
    "planCode".toList (.str sub.planCode)

/-- Steps 3 and 4 of `_process`: the parameters of the order that is sent, or what is missing. -/
def process (sub : Subscription) : Except (List Text) Params :=
  match validateOrderInput L sub.serviceSlug sub.metadata with
  | (false, missing) => .error missing
  | (true, _) => .ok (buildOrderParameters L (resolveProductKey sub.serviceSlug) sub.planCode
      sub.billingCycle sub.metadata)

/-! ## Complete orders -/

def InputKey.param : InputKey → Param
  | .aiTools => .aiTools
  | .areaCode => .areaCode
  | .phoneNumber => .phoneNumber
  | .storagePlan => .storagePlan
  | .companyName => .companyName
  | .sendingPlan | .selectedPlan | .planCode => .sendingPlan
  | .subdomain => .subdomain
  | .serviceId => .serviceId
  | .link => .link
  | .quantity => .quantity
  | .packageCode => .packageCode
  | .primaryDomain => .primaryDomain
  | .pluginName => .pluginName
  | .author => .author
  | .description => .description
  | .logoUrl => .logoUrl

/-- What the provider accepts under a parameter. -/
def Param.Accepts : Param → PyValue → Prop
  | .quantity, v => ∃ n, v = .int n ∧ 0 < n
  | .sendingPlan, v => ∃ plan ∈ EMAIL_MARKETING_PLANS, v = .str plan
  | .storagePlan, v => ∃ plan ∈ CLOUD_STORAGE_PLANS, v = .str plan
  | .aiTools, v => ∃ tools : List Text, v = .list (tools.map .str) ∧ tools ≠ [] ∧ [] ∉ tools
  | _, v => ∃ t, v = .str t ∧ t ≠ []

/-- The order has an acceptable parameter for each key of one of the groups. -/
def Complete (slug : Slug) (params : Params) : Prop :=
  ∃ group ∈ REQUIRED_INPUT_KEYS slug, ∀ k ∈ group, ∃ v, (k.param, v) ∈ params ∧ k.param.Accepts v

/-- The quantity reads as a positive integer: it is `True`, a number from 1 on, or the text of a
positive integer. -/
def PositiveQuantity (m : Meta) : Prop :=
  ∃ n, L.toInt (get m "quantity".toList) = some n ∧ 0 < n

/-! ## What is read -/

section Reading

variable {L} {v w : PyValue} {m : Meta} {p : Param} {t : Text} {key : String}
  {planCode billingCycle : Text} {x : Param × PyValue}

theorem truthy_of_text (h : L.text v ≠ []) : v.truthy = true := by
  by_contra hfalse
  exact h (Lang.text_of_falsy (Bool.eq_false_of_not_eq_true hfalse))

theorem text_orElse (h : L.text v ≠ []) : L.text (v.orElse w) = L.text v := by
  rw [orElse, if_pos (truthy_of_text h)]

theorem given_of_truthy (h : v.truthy = true) : given L v = decide (L.text v ≠ []) := by
  rw [Lang.text_of_truthy h]
  cases v with
  | none => cases h
  | _ => rfl

theorem text_metadataValue (m : Meta) (k : Text) :
    L.text (metadataValue L m [k]) = L.text (get m k) := by
  have hvalue : metadataValue L m [k] = if given L (get m k) then get m k else .none := by
    simp only [metadataValue, List.map_cons, List.map_nil, List.find?_cons, List.find?_nil]
    cases given L (get m k) <;> rfl
  rw [hvalue]
  split_ifs with hgiven
  · rfl
  · rw [Lang.text_of_falsy rfl]
    by_contra hne
    have htext : L.text (get m k) ≠ [] := Ne.symm hne
    rw [given_of_truthy (truthy_of_text htext)] at hgiven
    exact hgiven (decide_eq_true htext)

theorem groupGiven_iff {group : List InputKey} :
    groupGiven L m group = true ↔ ∀ k ∈ group, L.text (get m k.text) ≠ [] := by
  simp [groupGiven, text_metadataValue]

theorem validateOrderInput_iff {slug : Slug} (hai : slug ≠ .aiBusinessSuite)
    (hcloud : slug ≠ .cloudStorage) (hmail : slug ≠ .emailMarketing) :
    (validateOrderInput L slug m).1 = true ↔ REQUIRED_INPUT_KEYS slug = [] ∨
      ∃ group ∈ REQUIRED_INPUT_KEYS slug, ∀ k ∈ group, L.text (get m k.text) ≠ [] := by
  have hgroups : validateOrderInput L slug m =
      if REQUIRED_INPUT_KEYS slug = [] ∨ (REQUIRED_INPUT_KEYS slug).any (groupGiven L m) then
        (true, [])
      else (false, ((((REQUIRED_INPUT_KEYS slug).argmin List.length).getD []).map
        InputKey.text).insertionSort (· ≤ ·)) := by
    cases slug <;> first | contradiction | rfl
  simp only [← groupGiven_iff]
  rw [hgroups, ← List.any_eq_true]
  split_ifs with h
  · exact iff_of_true rfl h
  · exact iff_of_false (by simp) h

/-! ## What is sent -/

theorem mem_param : x ∈ param p t ↔ t ≠ [] ∧ x = (p, .str t) := by
  unfold param
  split_ifs with h <;> simp [h]

theorem mem_field : x ∈ field L m key p ↔
    L.text (get m key.toList) ≠ [] ∧ x = (p, .str (L.text (get m key.toList))) := mem_param

theorem Param.Accepts.not_none (h : p.Accepts v) : v.isNone = false := by
  cases v with
  | none => cases p <;> simp [Param.Accepts] at h
  | _ => rfl

theorem complete_iff {slug : Slug} {key : ProductKey} :
    Complete slug (buildOrderParameters L key planCode billingCycle m) ↔
      ∃ group ∈ REQUIRED_INPUT_KEYS slug, ∀ k ∈ group, ∃ v,
        (k.param, v) ∈ paramBuilder L key planCode billingCycle m ∧ k.param.Accepts v := by
  have hkept (p : Param) (v : PyValue) :
      (p, v) ∈ buildOrderParameters L key planCode billingCycle m ∧ p.Accepts v ↔
        (p, v) ∈ paramBuilder L key planCode billingCycle m ∧ p.Accepts v := by
    refine and_congr_left fun haccepts => ?_
    simp [buildOrderParameters, haccepts.not_none]
  simp only [Complete, hkept]

theorem nil_notMem_coerceStrList (v : PyValue) : [] ∉ coerceStrList L v := by
  cases v with
  | str s =>
    simp only [coerceStrList]
    split_ifs with h <;> simp [Ne.symm, h]
  | list items =>
    simp only [coerceStrList, List.mem_map, List.mem_filter, decide_eq_true_eq]
    rintro ⟨item, ⟨-, hitem⟩, hnil⟩
    rw [Lang.text_of_truthy (truthy_of_text hitem)] at hitem
    exact hitem hnil
  | _ => simp [coerceStrList]

theorem emailMarketingPlan_mem (h : emailMarketingPlan L planCode m ≠ []) :
    emailMarketingPlan L planCode m ∈ EMAIL_MARKETING_PLANS := by
  unfold emailMarketingPlan at h ⊢
  dsimp only at h ⊢
  split_ifs at h ⊢ with hmem
  · exact hmem
  · contradiction

/-- A plan that the validator finds in the metadata is the one that is ordered, whatever the plan
of the subscription is. -/
theorem emailMarketingPlan_eq (planCode : Text) (hlower : ∀ t, L.lower t = [] ↔ t = [])
    (h : emailMarketingPlan L [] m ≠ []) :
    emailMarketingPlan L planCode m = emailMarketingPlan L [] m := by
  unfold emailMarketingPlan at h ⊢
  dsimp only at h ⊢
  generalize metadataValue L m _ = v at h ⊢
  by_cases htruthy : v.truthy = true
  · simp only [orElse, if_pos htruthy]
  · -- The validator has read nothing.
    have hempty : L.lower (L.text (v.orElse (.str []))) = [] := by
      rw [orElse, if_neg htruthy, Lang.text_of_falsy rfl, hlower]
    rw [hempty] at h
    exact absurd (if_neg (by decide)) h

theorem positiveQuantity_iff (h : (get m "quantity".toList).truthy = true) :
    PositiveQuantity L m ↔ 0 < quantityOf L m := by
  rw [PositiveQuantity, quantityOf, orElse, if_pos h]
  cases L.toInt (get m "quantity".toList) <;> simp

/-! ## The agreement of validator and builders -/

variable {slug : Slug}

theorem field_sent {params : Params} (hsub : ∀ x ∈ field L m key p, x ∈ params)
    (h : L.text (get m key.toList) ≠ []) (haccepts : ∀ t, t ≠ [] → p.Accepts (.str t)) :
    ∃ v, (p, v) ∈ params ∧ p.Accepts v :=
  ⟨.str (L.text (get m key.toList)), hsub _ (mem_field.mpr ⟨h, rfl⟩), haccepts _ h⟩

theorem smm_complete_iff (hvalid : (validateOrderInput L .smmGrowth m).1 = true) :
    Complete .smmGrowth (buildOrderParameters L .smm planCode billingCycle m) ↔
      PositiveQuantity L m := by
  obtain hnil | ⟨group, hgroup, hgiven⟩ :=
    (validateOrderInput_iff (by decide) (by decide) (by decide)).mp hvalid
  · cases hnil
  obtain rfl := List.mem_singleton.mp hgroup
  rw [positiveQuantity_iff (truthy_of_text (hgiven .quantity (by simp))), complete_iff]
  constructor
  · rintro ⟨group, hgroup, hsent⟩
    obtain rfl := List.mem_singleton.mp hgroup
    obtain ⟨v, hv, -⟩ := hsent .quantity (by simp)
    by_contra hquantity
    simp [paramBuilder, buildSmmParams, hquantity, mem_field, InputKey.param] at hv
  · intro hquantity
    refine ⟨_, hgroup, fun k hk => ?_⟩
    have htext := hgiven k hk
    simp only [List.mem_cons, List.not_mem_nil, or_false] at hk
    obtain rfl | rfl | rfl := hk
    · exact field_sent (fun x hx => List.mem_append_left _ (List.mem_append_left _ hx)) htext
        fun t ht => ⟨t, rfl, ht⟩
    · exact field_sent (fun x hx => List.mem_append_left _ (List.mem_append_right _ hx)) htext
        fun t ht => ⟨t, rfl, ht⟩
    · exact ⟨.int (quantityOf L m), by simp [paramBuilder, buildSmmParams, hquantity, InputKey.param],
        _, rfl, hquantity⟩

theorem complete_of_key {k : InputKey} (hgroup : [k] ∈ REQUIRED_INPUT_KEYS slug)
    (hsent : ∃ v, (k.param, v) ∈ paramBuilder L (resolveProductKey slug) planCode billingCycle m ∧
      k.param.Accepts v) :
    Complete slug
      (buildOrderParameters L (resolveProductKey slug) planCode billingCycle m) := by
  refine complete_iff.mpr ⟨[k], hgroup, fun k' hk' => ?_⟩
  obtain rfl := List.mem_singleton.mp hk'
  exact hsent

theorem wp_complete (hvalid : (validateOrderInput L .wordpressPluginPack m).1 = true) :
    Complete .wordpressPluginPack
      (buildOrderParameters L .wpPluginInstaller planCode billingCycle m) := by
  obtain hnil | ⟨group, hgroup, hgiven⟩ :=
    (validateOrderInput_iff (by decide) (by decide) (by decide)).mp hvalid
  · cases hnil
  refine complete_iff.mpr ⟨group, hgroup, fun k hk => ?_⟩
  have htext := hgiven k hk
  obtain rfl := List.mem_singleton.mp hgroup
  simp only [List.mem_cons, List.not_mem_nil, or_false] at hk
  obtain rfl | rfl | rfl | rfl := hk
  · exact field_sent (fun x hx => List.mem_append_left _ (List.mem_append_left _
      (List.mem_append_left _ hx))) htext fun t ht => ⟨t, rfl, ht⟩
  · exact field_sent (fun x hx => List.mem_append_left _ (List.mem_append_left _
      (List.mem_append_right _ hx))) htext fun t ht => ⟨t, rfl, ht⟩
  · exact field_sent (fun x hx => List.mem_append_left _ (List.mem_append_right _ hx)) htext
      fun t ht => ⟨t, rfl, ht⟩
  · exact field_sent (fun x hx => List.mem_append_right _ hx) htext fun t ht => ⟨t, rfl, ht⟩

theorem phone_complete (hvalid : (validateOrderInput L .businessPhone m).1 = true) :
    Complete .businessPhone
      (buildOrderParameters L .businessPhone planCode billingCycle m) := by
  by_cases hphone : L.text (get m "phoneNumber".toList) = []
  · -- The number was not given, so the area code was.
    have harea : L.text (get m "areaCode".toList) ≠ [] := by
      obtain hnil | ⟨group, hgroup, hgiven⟩ :=
        (validateOrderInput_iff (by decide) (by decide) (by decide)).mp hvalid
      · cases hnil
      simp only [REQUIRED_INPUT_KEYS, List.mem_cons, List.not_mem_nil, or_false] at hgroup
      obtain rfl | rfl := hgroup
      · exact hgiven .areaCode (by simp)
      · exact absurd hphone (hgiven .phoneNumber (by simp))
    refine complete_of_key (k := .areaCode) (by decide) ?_
    refine field_sent (fun x hx => ?_) harea fun t ht => ⟨t, rfl, ht⟩
    rw [resolveProductKey, PRODUCT_KEY_MAP, paramBuilder, buildBusinessPhoneParams,
      if_neg (not_not.mpr hphone)]
    exact hx
  · refine complete_of_key (k := .phoneNumber) (by decide) ?_
    refine field_sent (fun x hx => ?_) hphone fun t ht => ⟨t, rfl, ht⟩
    rw [resolveProductKey, PRODUCT_KEY_MAP, paramBuilder, buildBusinessPhoneParams, if_pos hphone]
    exact hx

theorem given_of_valid {k : InputKey} (hgroups : REQUIRED_INPUT_KEYS slug = [[k]])
    (hai : slug ≠ .aiBusinessSuite) (hcloud : slug ≠ .cloudStorage) (hmail : slug ≠ .emailMarketing)
    (hvalid : (validateOrderInput L slug m).1 = true) : L.text (get m k.text) ≠ [] := by
  obtain hnil | ⟨group, hgroup, hgiven⟩ := (validateOrderInput_iff hai hcloud hmail).mp hvalid
  · rw [hgroups] at hnil
    cases hnil
  · rw [hgroups] at hgroup
    obtain rfl := List.mem_singleton.mp hgroup
    exact hgiven k (by simp)

/-- What is validated is sent, for every slug but one. -/
theorem complete_of_valid (hlower : ∀ t, L.lower t = [] ↔ t = []) (hsmm : slug ≠ .smmGrowth)
    (hrequired : REQUIRED_INPUT_KEYS slug ≠ []) (hvalid : (validateOrderInput L slug m).1 = true) :
    Complete slug
      (buildOrderParameters L (resolveProductKey slug) planCode billingCycle m) := by
  cases slug with
  | aiBusinessSuite =>
    have htools : aiToolsOf L m ≠ [] := by
      by_contra hnil
      simp [validateOrderInput, hnil] at hvalid
    refine complete_of_key (k := .aiTools) (by decide)
      ⟨.list ((aiToolsOf L m).map .str), ?_, _, rfl, htools, nil_notMem_coerceStrList _⟩
    simp [resolveProductKey, PRODUCT_KEY_MAP, paramBuilder, buildAiBusinessToolsParams, htools,
      InputKey.param]
  | cloudStorage =>
    have hplan : storagePlanOf L m ∈ CLOUD_STORAGE_PLANS := by
      by_contra hnot
      simp [validateOrderInput, hnot] at hvalid
    refine complete_of_key (k := .storagePlan) (by decide)
      ⟨.str (storagePlanOf L m), ?_, _, hplan, rfl⟩
    simp [resolveProductKey, PRODUCT_KEY_MAP, paramBuilder, buildCloudStorageParams, hplan,
      InputKey.param]
  | emailMarketing =>
    have hplan : emailMarketingPlan L [] m ≠ [] := by
      by_contra hnil
      simp [validateOrderInput, hnil] at hvalid
    have hsame := emailMarketingPlan_eq planCode hlower hplan
    refine complete_of_key (k := .sendingPlan) (by decide)
      ⟨.str (emailMarketingPlan L planCode m), mem_param.mpr ⟨hsame ▸ hplan, rfl⟩, _,
        emailMarketingPlan_mem (hsame ▸ hplan), rfl⟩
  | webHosting =>
    have htext := given_of_valid (k := .primaryDomain) rfl (by decide) (by decide) (by decide) hvalid
    refine complete_of_key (k := .primaryDomain) (by decide)
      ⟨.str (L.lower (L.text (get m "primaryDomain".toList))), ?_, _, rfl, mt (hlower _).mp htext⟩
    exact List.mem_append_left _ (List.mem_append_left _
      (mem_param.mpr ⟨mt (hlower _).mp htext, rfl⟩))
  | esim =>
    have htext := given_of_valid (k := .packageCode) rfl (by decide) (by decide) (by decide) hvalid
    exact complete_of_key (k := .packageCode) (by decide)
      (field_sent (fun _ hx => hx) htext fun t ht => ⟨t, rfl, ht⟩)
  | invoiceAi =>
    have htext := given_of_valid (k := .subdomain) rfl (by decide) (by decide) (by decide) hvalid
    exact complete_of_key (k := .subdomain) (by decide)
      (field_sent (fun _ hx => List.mem_append_left _ (List.mem_append_left _
        (List.mem_append_left _ hx))) htext fun t ht => ⟨t, rfl, ht⟩)
  | appointmentBooking =>
    have htext := given_of_valid (k := .subdomain) rfl (by decide) (by decide) (by decide) hvalid
    exact complete_of_key (k := .subdomain) (by decide)
      (field_sent (fun _ hx => List.mem_append_left _ (List.mem_append_left _
        (List.mem_append_left _ (List.mem_append_left _ hx)))) htext fun t ht => ⟨t, rfl, ht⟩)
  | documentSigner =>
    have htext := given_of_valid (k := .companyName) rfl (by decide) (by decide) (by decide) hvalid
    have horElse := text_orElse (w := get m "company_name".toList) htext
    exact complete_of_key (k := .companyName) (by decide)
      ⟨.str _, mem_param.mpr ⟨horElse ▸ htext, rfl⟩, _, rfl, horElse ▸ htext⟩
  | businessPhone => exact phone_complete hvalid
  | wordpressPluginPack => exact wp_complete hvalid
  | smmGrowth => exact absurd rfl hsmm
  | websiteBuilder | vpn | crm | socialMediaAutomation | reputationManagement | linkInBio =>
    exact absurd rfl hrequired

theorem get_setDefault {k k' : Text} (hk : k' ≠ k) : get (setDefault m k v) k' = get m k' := by
  unfold setDefault
  split_ifs
  · rfl
  · simp [PyValue.get, PyValue.getD, List.lookup_append, List.lookup_cons, beq_false_of_ne hk]

theorem metadata_quantity (sub : Subscription) :
    get sub.metadata "quantity".toList = get sub.provisionInput "quantity".toList := by
  rw [Subscription.metadata, get_setDefault (by decide), get_setDefault (by decide)]

/-- **What is ordered is complete.** An input that passes the validator gives a complete order, with
any plan and cycle, just when the slug is not `smm-growth` or the quantity is a positive integer;
and so does a paid subscription, which is then ordered. -/
theorem order_complete_iff {slug : Slug} (hlower : ∀ t, L.lower t = [] ↔ t = [])
    (hrequired : REQUIRED_INPUT_KEYS slug ≠ [])
    (hvalid : (validateOrderInput L slug m).1 = true) (planCode billingCycle : Text) :
    (Complete slug (buildOrderParameters L (resolveProductKey slug) planCode billingCycle m) ↔
        (slug = .smmGrowth → PositiveQuantity L m)) ∧
      ∀ input, Subscription.metadata ⟨slug, planCode, billingCycle, input⟩ = m →
        ∃ params, process L ⟨slug, planCode, billingCycle, input⟩ = .ok params ∧
          (Complete slug params ↔ (slug = .smmGrowth → PositiveQuantity L input)) := by
  have hiff : Complete slug
      (buildOrderParameters L (resolveProductKey slug) planCode billingCycle m) ↔
        (slug = .smmGrowth → PositiveQuantity L m) := by
    by_cases hsmm : slug = .smmGrowth
    · subst hsmm
      exact (smm_complete_iff hvalid).trans ⟨fun h _ => h, fun h => h rfl⟩
    · exact iff_of_true (complete_of_valid hlower hsmm hrequired hvalid) fun h => absurd h hsmm
  refine ⟨hiff, ?_⟩
  rintro input rfl
  refine ⟨_, ?_, hiff.trans ?_⟩
  · unfold process
    split
    · next missing h => rw [h] at hvalid; cases hvalid
    · rfl
  · rw [PositiveQuantity, metadata_quantity]
    rfl

end Reading

/-! ## A quantity that is no number -/

/-- Texts without upper case, and numbers in digits. -/
def plainLang : Lang where
  isSpace c := c = ' '
  upper t := t
  lower t := t
  int t := if t ≠ [] ∧ t.all Char.isDigit then
    some (t.foldl (fun n c => 10 * n + (c.toNat - '0'.toNat : ℕ)) 0) else none
  float _ := none
  repr _ := "0.5".toList

def likes (quantity : String) : Meta :=
  [("serviceId".toList, .str "insta-likes".toList), ("link".toList, .str "example.com".toList),
    ("quantity".toList, .str quantity.toList)]

/-- A paid subscription for them. -/
def likesSubscription (quantity : String) : Subscription :=
  ⟨.smmGrowth, "starter".toList, "monthly".toList, likes quantity⟩

theorem order_complete_likes :
    (Complete .smmGrowth (buildOrderParameters plainLang (resolveProductKey .smmGrowth)
        "starter".toList "monthly".toList (likesSubscription "500").metadata) ↔
      (Slug.smmGrowth = .smmGrowth →
        PositiveQuantity plainLang (likesSubscription "500").metadata)) ∧
      ∃ params, process plainLang (likesSubscription "500") = .ok params ∧
        (Complete .smmGrowth params ↔
          (Slug.smmGrowth = .smmGrowth → PositiveQuantity plainLang (likes "500"))) := by
  have hvalid : (validateOrderInput plainLang .smmGrowth
      (likesSubscription "500").metadata).1 = true := by decide +kernel
  have h := order_complete_iff (fun t => Iff.rfl) (by decide) hvalid
    "starter".toList "monthly".toList
  exact ⟨h.1, h.2 (likes "500") rfl⟩

/-- `"1,000"` passes the validator, and the order goes out without a quantity. -/
theorem quantity_dropped :
    ¬ ∀ (L : Lang) (sub : Subscription) (params : Params),
      REQUIRED_INPUT_KEYS sub.serviceSlug ≠ [] → process L sub = .ok params →
      Complete sub.serviceSlug params := by
  intro h
  have hsent : process plainLang (likesSubscription "1,000") = .ok
      [(.serviceId, .str "insta-likes".toList), (.link, .str "example.com".toList)] := by
    rfl
  obtain ⟨group, hgroup, hall⟩ := h _ _ _ (by decide) hsent
  obtain rfl := List.mem_singleton.mp hgroup
  obtain ⟨v, hv, -⟩ := hall .quantity (by simp)
  simp [InputKey.param] at hv

end Deltapreneur.ProductMapper
