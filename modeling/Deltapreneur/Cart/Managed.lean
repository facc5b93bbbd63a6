import Deltapreneur.Cart.Shop

/-!
# A managed acquisition is bought alone

Whether a premium listing or a managed registration is always the only line of its cart, over any
sequence of requests on the baskets, with the premium listings fixed.

`add_item` enforces it for the line it adds. `update_item` takes new metadata for a registration
and `update_domain_registration_period` a new price, and either can make the line a managed one
with other lines beside it.

* `Db.ManagedAlone`: the property.
* `Op.KeepsOrdinary`: a request does not turn a line into a managed one beside others.

Results:

* `managed_alone`: the property in every cart that is reached by such requests.
* `update_mixes`: `update_item` makes a registration managed beside a service.
-/

namespace Deltapreneur.Cart

open Marketplace

/-- A premium listing or a managed registration. -/
def CartItem.managed (premium : ProductId → Bool) (it : CartItem) : Bool :=
  match it.productType with
  | .domainListing => premium it.productId
  | .domainRegistration => it.client.isManaged
  | .technology | .ventureDeal => false

/-- **A managed line is the only line of its cart.** -/
def Db.ManagedAlone (premium : ProductId → Bool) (db : Db) : Prop :=
  ∀ user, ∀ it ∈ db.cart user, it.managed premium = true → db.cart user = [it]

def Catalogue.Premium (cat : Catalogue) (premium : ProductId → Bool) : Prop :=
  ∀ product, (cat.listings product).any (fun l => l.isPremium) = premium product

/-- A request on a basket, with these premium listings. -/
def Op.OnBasket (premium : ProductId → Bool) : Op → Prop
  | .addItem cat _ _ | .updateItem cat _ _ _ | .updateDomainRegistrationPeriod cat _ _ _
  | .getCart cat _ => cat.Premium premium
  | .removeItem _ _ | .clearCart _ => True
  | .createCheckoutOrder _ _ | .cancelCheckoutOrder _ _ | .capture _ | .fulfil _ _ => False

/-- The live price of a registration for a number of years. -/
def CartItem.livePrice (it : CartItem) (cat : Catalogue) (years : Nat) : Option Paise :=
  it.client.domainName.bind fun domain =>
    (cat.periodQuote domain (max years (it.client.minYears cat domain))).map PeriodQuote.price

/-- The user's cart holds this line only. -/
def Db.Single (db : Db) (user : UserId) (id : ItemId) : Prop := ∀ y ∈ db.cart user, y.id = id

/-- A request does not turn a registration into a managed one beside other lines: neither by
metadata that is accepted, nor by live prices above ₹5,00,000 with tax. -/
def Op.KeepsOrdinary (s : Shop) : Op → Prop
  | .updateItem _ user id req => ∀ m ∈ req.metadata, m.price ≠ 0 → m.isManaged = true →
      ∀ it ∈ s.db.cart user, it.id = id → it.productType = .domainRegistration →
        s.db.Single user id
  | .updateDomainRegistrationPeriod cat user years id =>
      (∀ it ∈ s.db.periodTargets user id, (it.livePrice cat (max 1 (min 10 years))).isSome) →
        ∀ it ∈ s.db.periodTargets user id, ∀ price ∈ it.livePrice cat (max 1 (min 10 years)),
          50000000 < gstTotal price → s.db.Single user it.id
  | _ => True

/-! ## The invariant -/

/-- A managed line is every line of its cart. -/
def Db.SameLine (premium : ProductId → Bool) (db : Db) : Prop :=
  ∀ x ∈ db.items, ∀ y ∈ db.items, x.userId = y.userId → x.managed premium = true → x.id = y.id

/-- A cart has one line for a product. -/
def Db.OneLine (db : Db) : Prop :=
  ∀ x ∈ db.items, ∀ y ∈ db.items, x.userId = y.userId → x.productType = y.productType →
    x.productId = y.productId → x.id = y.id

/-- With both, the ids are in order. -/
structure Shop.Sorted (premium : ProductId → Bool) (s : Shop) : Prop where
  ids : (s.db.items.map CartItem.id).Nodup
  fresh : ∀ it ∈ s.db.items, it.id < s.nextItem
  products : s.db.OneLine
  same : s.db.SameLine premium

variable {premium : ProductId → Bool} {s : Shop} {db db' : Db} {cat : Catalogue} {user : UserId}
  {x y z : CartItem} {type : ProductType} {product : ProductId} {id : ItemId} {req : AddRequest}

theorem eq_singleton_of_ids {l : List CartItem} (hids : (l.map CartItem.id).Nodup) (hx : x ∈ l)
    (h : ∀ y ∈ l, x.id = y.id) : l = [x] := by
  cases l with
  | nil => cases hx
  | cons a rest =>
    cases rest with
    | nil => rw [List.mem_singleton.mp hx]
    | cons b rest =>
      have hab : a.id = b.id := (h a (by simp)).symm.trans (h b (by simp))
      simp [hab] at hids

theorem Shop.Sorted.distinct (h : s.Sorted premium) : s.Distinct := by
  refine ⟨h.ids, fun id hid => ?_⟩
  obtain ⟨it, hit, rfl⟩ := List.mem_map.mp hid
  exact h.fresh it hit

theorem Shop.Sorted.alone (h : s.Sorted premium) : s.db.ManagedAlone premium := by
  intro user it hit hmanaged
  obtain ⟨hitem, huser⟩ := mem_cart.mp hit
  refine eq_singleton_of_ids (h.ids.sublist (List.filter_sublist.map _)) hit fun y hy => ?_
  obtain ⟨hy, hyuser⟩ := mem_cart.mp hy
  exact h.same it hitem y hy (huser.trans hyuser.symm) hmanaged

theorem sameLine_of_subset (h : db.SameLine premium) (hsub : ∀ y ∈ db'.items, y ∈ db.items) :
    db'.SameLine premium :=
  fun x hx y hy => h x (hsub x hx) y (hsub y hy)

theorem sameLine_setItems (user : UserId) {zs : List CartItem} (h : db.SameLine premium)
    (hzs : ∀ z ∈ zs, z.userId = user ∧ ∃ x ∈ db.items, x.id = z.id ∧ x.userId = user)
    (hmanaged : ∀ z ∈ zs, z.managed premium = true →
      ∀ y ∈ db.items, y.userId = user → z.id = y.id) :
    (zs.foldl Db.setItem db).SameLine premium := by
  intro a ha b hb hab hm
  rcases mem_setItems ha with ha | ha
  · have huser := (hzs a ha).1
    rcases mem_setItems hb with hb | hb
    · obtain ⟨-, x, hx, hxb, hxuser⟩ := hzs b hb
      exact (hmanaged a ha hm x hx hxuser).trans hxb
    · exact hmanaged a ha hm b hb (hab.symm.trans huser)
  · rcases mem_setItems hb with hb | hb
    · obtain ⟨huser, x, hx, hxb, hxuser⟩ := hzs b hb
      exact (h a ha x hx ((hab.trans huser).trans hxuser.symm) hm).trans hxb
    · exact h a ha b hb hab hm

theorem sameLine_setItem (h : db.SameLine premium) (hx : x ∈ db.items) (hid : x.id = z.id)
    (huser : z.userId = x.userId)
    (hz : z.managed premium = true → ∀ y ∈ db.items, y.userId = x.userId → x.id = y.id) :
    (db.setItem z).SameLine premium :=
  show ([z].foldl Db.setItem db).SameLine premium from
    sameLine_setItems x.userId h
      (fun u hu => List.mem_singleton.mp hu ▸ ⟨huser, x, hx, hid, rfl⟩)
      fun u hu hm y hy hyuser => by
        obtain rfl := List.mem_singleton.mp hu
        exact hid.symm.trans (hz hm y hy hyuser)

/-! ## Requests -/

theorem managed_eq_alone (hcat : cat.Premium premium) (x : CartItem) :
    x.managed premium = cat.alone x.productType x.productId x.client := by
  unfold CartItem.managed Catalogue.alone
  generalize x.productType = type
  cases type with
  | domainListing => exact (hcat x.productId).symm
  | domainRegistration | technology | ventureDeal => rfl

/-- What a check leaves of the metadata is managed if it was before. -/
theorem validate_managed {m m' : ClientMeta} {plan : Option Plan}
    (h : validateProductAvailable cat user type product m plan = .ok m') :
    m'.isManaged = m.isManaged ∧ (type = .domainRegistration → m.price ≠ 0) := by
  unfold validateProductAvailable at h
  split at h
  · obtain ⟨-, -, h⟩ := bind_eq_ok.mp h
    exact ⟨Except.ok.inj h ▸ rfl, by simp⟩
  · obtain ⟨-, -, h⟩ := bind_eq_ok.mp h
    exact ⟨Except.ok.inj h ▸ rfl, by simp⟩
  · obtain ⟨-, -, h⟩ := bind_eq_ok.mp h
    exact ⟨Except.ok.inj h ▸ rfl, by simp⟩
  · split at h
    · cases h
    · next hprice =>
      refine ⟨?_, fun _ => hprice⟩
      cases h
      unfold ClientMeta.validated
      split <;> rfl

theorem tagged_managed (m : ClientMeta) (type : ProductType) :
    (m.tagged type).isManaged = m.isManaged := by
  unfold ClientMeta.tagged
  split
  · next h => simpa [ClientMeta.isManaged] using h.2.symm
  · rfl

/-- What `add_item` has enforced. -/
theorem enforce_ok {items : List CartItem} {m : ClientMeta} {updating : Bool}
    (h : enforceManagedAcquisitionCartRules cat items type product m updating = .ok ()) :
    (cat.alone type product m = true →
      ∀ it ∈ items, it.productType = type ∧ it.productId = product) ∧
    (cat.alone type product m = false → updating = false →
      ∀ it ∈ items, cat.alone it.productType it.productId it.client = false) := by
  unfold enforceManagedAcquisitionCartRules at h
  split at h
  · next halone =>
    split at h
    · cases h
    · next hother =>
      exact ⟨fun _ => by simpa using hother, fun hnot => absurd halone (by simp [hnot])⟩
  · next hnot =>
    split at h
    · cases h
    · next hother =>
      refine ⟨fun halone => absurd halone hnot, fun _ hup it hit => ?_⟩
      subst hup
      exact Bool.eq_false_iff.mpr fun halone => hother (by simpa using ⟨it, hit, halone⟩)

theorem sameLine_addItem (hcat : cat.Premium premium) (h : db.SameLine premium) (hone : db.OneLine)
    (hok : db.addItem cat user id req = .ok db') : db'.SameLine premium := by
  unfold Db.addItem at hok
  split at hok
  · next it hit =>
    obtain ⟨m, hm, hok⟩ := bind_eq_ok.mp hok
    obtain ⟨⟨⟩, henforced, hok⟩ := bind_eq_ok.mp hok
    cases hok
    obtain ⟨hitem, huser⟩ := mem_cart.mp (List.mem_of_find?_eq_some hit)
    have hsame : it.productType = req.productType ∧ it.productId = req.productId := by
      simpa using List.find?_some hit
    refine sameLine_setItem h hitem rfl rfl fun hmanaged y hy hyuser => ?_
    have halone : cat.alone req.productType req.productId m = true := by
      rw [managed_eq_alone hcat] at hmanaged
      unfold Catalogue.alone at hmanaged ⊢
      simp only [CartItem.readd, hsame, tagged_managed] at hmanaged
      exact hmanaged
    obtain ⟨htype, hproduct⟩ := (enforce_ok henforced).1 halone y
      (mem_cart.mpr ⟨hy, hyuser.trans huser⟩)
    exact hone it hitem y hy hyuser.symm (hsame.1.trans htype.symm) (hsame.2.trans hproduct.symm)
  · next hnone =>
    obtain ⟨m, hm, hok⟩ := bind_eq_ok.mp hok
    obtain ⟨⟨⟩, henforced, hok⟩ := bind_eq_ok.mp hok
    cases hok
    have hno : ∀ y ∈ db.items, y.userId = user →
        ¬ (y.productType = req.productType ∧ y.productId = req.productId) := by
      intro y hy hyuser hsame
      exact List.find?_eq_none.mp hnone y (mem_cart.mpr ⟨hy, hyuser⟩) (by simpa using hsame)
    intro a ha b hb hab hmanaged
    rcases List.mem_append.mp ha with ha | ha
    · rcases List.mem_append.mp hb with hb | hb
      · exact h a ha b hb hab hmanaged
      · obtain rfl := List.mem_singleton.mp hb
        have hnot : cat.alone req.productType req.productId m = false :=
          Bool.eq_false_iff.mpr fun halone =>
            hno a ha hab ((enforce_ok henforced).1 halone a (mem_cart.mpr ⟨ha, hab⟩))
        have := (enforce_ok henforced).2 hnot rfl a (mem_cart.mpr ⟨ha, hab⟩)
        rw [← managed_eq_alone hcat, hmanaged] at this
        cases this
    · obtain rfl := List.mem_singleton.mp ha
      rcases List.mem_append.mp hb with hb | hb
      · have halone : cat.alone req.productType req.productId m = true := by
          rw [managed_eq_alone hcat] at hmanaged
          unfold Catalogue.alone at hmanaged ⊢
          simpa only [tagged_managed] using hmanaged
        exact absurd ((enforce_ok henforced).1 halone b (mem_cart.mpr ⟨hb, hab.symm⟩))
          (hno b hb hab.symm)
      · exact (List.mem_singleton.mp hb) ▸ rfl

theorem sameLine_updateItem (h : db.SameLine premium) {req : UpdateRequest}
    (hkeep : ∀ m ∈ req.metadata, m.price ≠ 0 → m.isManaged = true →
      ∀ it ∈ db.cart user, it.id = id → it.productType = .domainRegistration → db.Single user id)
    (hok : db.updateItem cat user id req = .ok db') : db'.SameLine premium := by
  unfold Db.updateItem at hok
  split at hok
  · cases hok
  · next it hit =>
    obtain ⟨m, hm, hok⟩ := bind_eq_ok.mp hok
    cases hok
    have hcart := List.mem_of_find?_eq_some hit
    obtain ⟨hitem, huser⟩ := mem_cart.mp hcart
    have hid : it.id = id := by simpa using List.find?_some hit
    obtain ⟨hsame, hprice⟩ := validate_managed hm
    refine sameLine_setItem h hitem rfl rfl fun hmanaged y hy hyuser => ?_
    by_cases hold : it.managed premium = true
    · exact h it hitem y hy hyuser.symm hold
    -- The line has become a managed one: by new metadata of a registration.
    have htype : it.productType = .domainRegistration := by
      by_contra hother
      refine hold ?_
      unfold CartItem.managed at hmanaged ⊢
      revert hmanaged
      simp only [CartItem.update]
      split <;> simp_all
    have hclient : m.isManaged = true := by
      simpa [CartItem.managed, CartItem.update, htype] using hmanaged
    rw [hsame] at hclient
    cases hmeta : req.metadata with
    | none =>
      refine absurd ?_ hold
      simpa [CartItem.managed, CartItem.update, htype, hmeta] using hclient
    | some sent =>
      have hupdated : (it.update req).client = sent := by simp [CartItem.update, hmeta]
      rw [hupdated] at hclient hprice
      exact hid.trans (hkeep sent hmeta (hprice htype) hclient it hcart hid htype y
        (mem_cart.mpr ⟨hy, hyuser.trans huser⟩)).symm

theorem applyQuote_price {years : Nat} (h : applyRegistrationPeriodQuote cat years x = .ok z) :
    ∃ price ∈ x.livePrice cat years, z.client.isManaged =
      (x.client.isManagedAcquisition || gstTotal price > 50000000) := by
  unfold applyRegistrationPeriodQuote at h
  split at h
  · cases h
  · next domain hdomain =>
    simp only at h
    split at h
    · cases h
    · next quote hquote =>
      cases h
      refine ⟨quote.price, ?_, ?_⟩
      · simp [CartItem.livePrice, hdomain, hquote]
      · simp only [tagged_managed]
        rfl

theorem mapM_ok_mem {ε α β : Type} {f : α → Except ε β} {l : List α} {l' : List β}
    (h : l.mapM f = .ok l') : ∀ x ∈ l, ∃ y, f x = .ok y := by
  induction l generalizing l' with
  | nil => exact fun x hx => absurd hx List.not_mem_nil
  | cons a rest ih =>
    rw [List.mapM_cons] at h
    obtain ⟨y, hy, h⟩ := bind_eq_ok.mp h
    obtain ⟨ys, hys, -⟩ := bind_eq_ok.mp h
    exact List.forall_mem_cons.mpr ⟨⟨y, hy⟩, ih hys⟩

theorem sameLine_updatePeriod (h : db.SameLine premium) {years : Nat} {id : Option ItemId}
    (hkeep : (∀ it ∈ db.periodTargets user id, (it.livePrice cat (max 1 (min 10 years))).isSome) →
      ∀ it ∈ db.periodTargets user id, ∀ price ∈ it.livePrice cat (max 1 (min 10 years)),
        50000000 < gstTotal price → db.Single user it.id)
    (hok : db.updateDomainRegistrationPeriod cat user years id = .ok db') :
    db'.SameLine premium := by
  unfold Db.updateDomainRegistrationPeriod at hok
  split at hok
  · cases hok
  split at hok
  · cases hok
  obtain ⟨quoted, hquoted, hok⟩ := bind_eq_ok.mp hok
  cases hok
  have hall : ∀ it ∈ db.periodTargets user id,
      (it.livePrice cat (max 1 (min 10 years))).isSome := by
    intro it hit
    obtain ⟨z, hz⟩ := mapM_ok_mem hquoted it hit
    obtain ⟨price, hprice, -⟩ := applyQuote_price hz
    simp [Option.mem_def.mp hprice]
  refine sameLine_setItems user h (fun z hz => ?_) fun z hz hmanaged y hy hyuser => ?_
  · obtain ⟨x, hx, hxz⟩ := mem_of_mapM hquoted z hz
    obtain ⟨hedit, -⟩ := applyQuote_ok hxz
    obtain ⟨hxitem, hxuser⟩ := mem_cart.mp (mem_periodTargets hx).1
    exact ⟨hedit.user.trans hxuser, x, hxitem, hedit.id.symm, hxuser⟩
  · obtain ⟨x, hx, hxz⟩ := mem_of_mapM hquoted z hz
    obtain ⟨hedit, -⟩ := applyQuote_ok hxz
    obtain ⟨hxcart, htype⟩ := mem_periodTargets hx
    obtain ⟨hxitem, hxuser⟩ := mem_cart.mp hxcart
    obtain ⟨price, hprice, hz⟩ := applyQuote_price hxz
    have hclient : z.client.isManaged = true := by
      simpa [CartItem.managed, hedit.type, htype] using hmanaged
    rw [hz, Bool.or_eq_true, decide_eq_true_eq] at hclient
    rcases hclient with hflag | hdear
    · have hold : x.managed premium = true := by
        simp [CartItem.managed, htype, ClientMeta.isManaged, hflag]
      exact hedit.id.trans (h x hxitem y hy (hxuser.trans hyuser.symm) hold)
    · exact hedit.id.trans (hkeep hall x hx price hprice hdear y
        (mem_cart.mpr ⟨hy, hyuser⟩)).symm

/-! ## Histories -/

theorem oneLine_edits (h : db.OneLine) (hedits : Edits [] db db') : db'.OneLine := by
  intro x hx y hy huser htype hproduct
  rcases hedits.items x hx with ⟨x₀, hx₀, hxe⟩ | ⟨hnew, -⟩
  · rcases hedits.items y hy with ⟨y₀, hy₀, hye⟩ | ⟨hnew, -⟩
    · rw [hxe.id, hye.id]
      exact h x₀ hx₀ y₀ hy₀ (hxe.user.symm.trans (huser.trans hye.user))
        (hxe.type.symm.trans (htype.trans hye.type))
        (hxe.product.symm.trans (hproduct.trans hye.product))
    · cases hnew
  · cases hnew

theorem Shop.Sorted.edit (h : s.Sorted premium) (hedits : Edits [] s.db db)
    (hsame : db.SameLine premium) : Shop.Sorted premium { s with db := db } where
  ids := (h.distinct.edit hedits).ids
  fresh := (h.distinct.edit hedits).lt
  products := oneLine_edits h.products hedits
  same := hsame

theorem sorted_cleanup (h : s.Sorted premium) (cat : Catalogue) (user : UserId) :
    Shop.Sorted premium { s with db := s.db.cleanupStalePurchasedCartItems cat user } :=
  h.edit edits_cleanup (sameLine_of_subset h.same fun _ hy => List.mem_of_mem_filter hy)

theorem sorted_orRollback {res : Except Raised Db} (h : s.Sorted premium)
    (hres : ∀ db, res = .ok db → Edits [] s.db db ∧ db.SameLine premium) :
    Shop.Sorted premium { s with db := orRollback s.db res } := by
  cases res with
  | ok db => exact h.edit (hres db rfl).1 (hres db rfl).2
  | error e => exact h

theorem oneLine_addItem (h : db.OneLine) (hok : db.addItem cat user id req = .ok db') :
    db'.OneLine := by
  unfold Db.addItem at hok
  split at hok
  · next it hit =>
    obtain ⟨m, -, hok⟩ := bind_eq_ok.mp hok
    obtain ⟨-, -, hok⟩ := bind_eq_ok.mp hok
    cases hok
    have hitem := (mem_cart.mp (List.mem_of_find?_eq_some hit)).1
    intro x hx y hy huser htype hproduct
    rcases mem_setItem hx with rfl | hx
    · rcases mem_setItem hy with rfl | hy
      · rfl
      · exact h it hitem y hy huser htype hproduct
    · rcases mem_setItem hy with rfl | hy
      · exact h x hx it hitem huser htype hproduct
      · exact h x hx y hy huser htype hproduct
  · next hnone =>
    obtain ⟨m, -, hok⟩ := bind_eq_ok.mp hok
    obtain ⟨-, -, hok⟩ := bind_eq_ok.mp hok
    cases hok
    have hno : ∀ y ∈ db.items, y.userId = user →
        ¬ (y.productType = req.productType ∧ y.productId = req.productId) := by
      intro y hy hyuser hsame
      exact List.find?_eq_none.mp hnone y (mem_cart.mpr ⟨hy, hyuser⟩) (by simpa using hsame)
    intro x hx y hy huser htype hproduct
    rcases List.mem_append.mp hx with hx | hx
    · rcases List.mem_append.mp hy with hy | hy
      · exact h x hx y hy huser htype hproduct
      · obtain rfl := List.mem_singleton.mp hy
        exact absurd ⟨htype, hproduct⟩ (hno x hx huser)
    · obtain rfl := List.mem_singleton.mp hx
      rcases List.mem_append.mp hy with hy | hy
      · exact absurd ⟨htype.symm, hproduct.symm⟩ (hno y hy huser.symm)
      · exact (List.mem_singleton.mp hy) ▸ rfl

theorem sorted_addItem (h : s.Sorted premium) (hcat : cat.Premium premium)
    (hok : s.db.addItem cat user s.nextItem req = .ok db) :
    Shop.Sorted premium { s with db := db, nextItem := s.nextItem + 1 } where
  ids := (h.distinct.add (edits_addItem hok)).ids
  fresh := (h.distinct.add (edits_addItem hok)).lt
  products := oneLine_addItem h.products hok
  same := sameLine_addItem hcat h.same h.products hok

/-- **A request that keeps registrations ordinary keeps managed lines alone.** -/
theorem sorted_step (h : s.Sorted premium) (op : Op) (hop : op.OnBasket premium)
    (hkeep : op.KeepsOrdinary s) : (s.step op).Sorted premium := by
  cases op with
  | addItem cat user req =>
    have hclean := sorted_cleanup h cat user
    cases hok : (s.db.cleanupStalePurchasedCartItems cat user).addItem cat user s.nextItem req with
    | ok db =>
      simp only [Shop.step, hok, orRollback]
      exact sorted_addItem (s := { s with db := s.db.cleanupStalePurchasedCartItems cat user })
        hclean hop hok
    | error e =>
      simp only [Shop.step, hok, orRollback]
      exact { hclean with fresh := fun y hy => (hclean.fresh y hy).trans (Nat.lt_succ_self _) }
  | updateItem cat user id req =>
    exact sorted_orRollback h fun db hok => ⟨edits_updateItem hok, sameLine_updateItem h.same hkeep hok⟩
  | updateDomainRegistrationPeriod cat user years id =>
    cases hok : s.db.updateDomainRegistrationPeriod cat user years id with
    | ok db =>
      simp only [Shop.step, hok, Except.map, orRollback]
      exact sorted_cleanup (s := { s with db := db })
        (h.edit (edits_updatePeriod hok) (sameLine_updatePeriod h.same hkeep hok)) cat user
    | error e =>
      simp only [Shop.step, hok, Except.map, orRollback]
      exact h
  | removeItem user id =>
    refine sorted_orRollback h fun db hok => ⟨edits_removeItem hok, ?_⟩
    unfold Db.removeItem at hok
    split at hok
    · cases hok
    · cases hok
      exact sameLine_of_subset h.same fun _ hy => List.mem_of_mem_filter hy
  | clearCart user =>
    exact h.edit edits_clearCart (sameLine_of_subset h.same fun _ hy => List.mem_of_mem_filter hy)
  | getCart cat user => exact sorted_cleanup h cat user
  | createCheckoutOrder cat r => exact hop.elim
  | cancelCheckoutOrder buyer order => exact hop.elim
  | capture order => exact hop.elim
  | fulfil e v => exact hop.elim

/-- **A managed acquisition is always alone in its cart**, after any requests on the baskets, with
the premium listings fixed, that turn no registration into a managed one beside other lines. -/
theorem managed_alone (premium : ProductId → Bool) (ops : List Op)
    (hops : ∀ op ∈ ops, op.OnBasket premium)
    (hkeep : Run.Meets Shop.step (fun s op => op.KeepsOrdinary s) Shop.empty ops) :
    (Run.exec Shop.step Shop.empty ops).db.ManagedAlone premium := by
  have hempty : Shop.empty.Sorted premium := by
    constructor <;> simp [Shop.empty, Db.empty, Db.OneLine, Db.SameLine]
  have hmeets := Run.meets_and (Run.meets_of_forall Shop.empty hops) hkeep
  have hend : (Run.exec Shop.step Shop.empty ops).Sorted premium :=
    Run.exec_inv (P := Shop.Sorted premium) (fun s op h hop => sorted_step h op hop.1 hop.2)
      hempty hmeets
  exact hend.alone

/-- A service and a registration at `price`; then the registration's metadata is sent again with
another price. -/
def repriced (price : Paise) : List Op :=
  [.addItem twoServices 1 ⟨.technology, 10, none, [], false, some { serviceSlug := ['v', 'p', 'n'] }⟩,
    .addItem twoServices 1 ⟨.domainRegistration, 0, none, [], false,
      some { domainName := some 3, price := 90000 }⟩,
    .updateItem twoServices 1 1 ⟨none, none, none, some { domainName := some 3, price := price }⟩]

theorem onBasket_repriced (price : Paise) : ∀ op ∈ repriced price, op.OnBasket fun _ => false := by
  intro op hop
  simp only [repriced, List.mem_cons, List.not_mem_nil, or_false] at hop
  rcases hop with rfl | rfl | rfl
  · exact fun _ => rfl
  · exact fun _ => rfl
  · exact fun _ => rfl

/-- An ordinary price may change. -/
theorem managed_alone_repriced : (∀ op ∈ repriced 80000, op.OnBasket fun _ => false) ∧
    (Run.exec Shop.step Shop.empty (repriced 80000)).db.ManagedAlone fun _ => false :=
  ⟨onBasket_repriced 80000, managed_alone (fun _ => false) (repriced 80000)
    (onBasket_repriced 80000) ⟨trivial, trivial, fun m hm _ hmanaged => by
      obtain rfl := Option.some.inj hm
      exact absurd hmanaged (by decide), trivial⟩⟩

/-- A registration is made a managed one beside a service. -/
theorem update_mixes : ¬ ∀ (premium : ProductId → Bool) (ops : List Op),
    (∀ op ∈ ops, op.OnBasket premium) →
      (Run.exec Shop.step Shop.empty ops).db.ManagedAlone premium := by
  intro h
  have halone := h (fun _ => false) (repriced 50000000) (onBasket_repriced 50000000) 1
  have hlen : ((Run.exec Shop.step Shop.empty (repriced 50000000)).db.cart 1).length = 2 := by decide
  obtain ⟨it, hit, hmanaged⟩ : ∃ it ∈ (Run.exec Shop.step Shop.empty (repriced 50000000)).db.cart 1,
      it.managed (fun _ => false) = true := by decide
  rw [halone it hit hmanaged] at hlen
  exact absurd hlen (by simp)

end Deltapreneur.Cart
