import RevocationCheck.Proofs.ListSource
import RevocationCheck.Proofs.SourcePriority

/-!
# The distribution point of a certificate

A certificate may have many extensions, an extension of distribution points many points, and a point
many names.  The place where its revocation list is published is the first URI among all of these in
the order in which they are written (`FirstUri`).

The search goes from extension to extension, from point to point and from name to name
(`distributionPoint?_eq_findSome?`), and nothing but a URI ends it: a point without a name, a point
with a relative name, and a full name without a URI are passed over (`IsSilent`).  What it finds is
the text that is fetched.
-/

namespace RevocationCheck.X509

/-- A point that gives no URI. -/
inductive DistributionPoint.IsSilent : DistributionPoint → Prop
  | unnamed : IsSilent ⟨none⟩
  | relative : IsSilent ⟨some .relative⟩
  | noUri {names : List GeneralName} (none_uri : ∀ name ∈ names, name.uri? = none) :
      IsSilent ⟨some (.full names)⟩

/-- The place of a name in a certificate: the number of its extension among all extensions, that of
its point in the extension, and its own in the point. -/
structure Place where
  extension : Nat
  point : Nat
  name : Nat

/-- One place comes before another one in the order of the certificate. -/
def Place.Before (p q : Place) : Prop :=
  p.extension < q.extension ∨ p.extension = q.extension ∧
    (p.point < q.point ∨ p.point = q.point ∧ p.name < q.name)

theorem Place.before_or_eq_or_before (p q : Place) : p.Before q ∨ p = q ∨ q.Before p := by
  obtain ⟨i, j, k⟩ := p
  obtain ⟨i', j', k'⟩ := q
  simp only [Before, Place.mk.injEq]
  omega

/-! ### The search as one of three levels -/

section Search

variable {α β : Type} {f : α → Option β} {items : List α} {b : β}

/-- A search ends at the first position with a result. -/
theorem findSome?_eq_some_iff_getElem? :
    items.findSome? f = some b ↔ ∃ (i : Nat) (a : α), items[i]? = some a ∧ f a = some b ∧
      ∀ j < i, ∀ other, items[j]? = some other → f other = none := by
  rw [List.findSome?_eq_some_iff]
  constructor
  · rintro ⟨front, a, back, rfl, ha, hfront⟩
    refine ⟨front.length, a, by simp, ha, fun j hj other hother => ?_⟩
    rw [List.getElem?_append_left hj] at hother
    exact hfront other (List.mem_of_getElem? hother)
  · rintro ⟨i, a, hitem, ha, hbefore⟩
    obtain ⟨hi, rfl⟩ := List.getElem?_eq_some_iff.mp hitem
    refine ⟨items.take i, items[i], items.drop (i + 1), by simp, ha, fun other hother => ?_⟩
    obtain ⟨j, hj, rfl⟩ := List.mem_take_iff_getElem.mp hother
    exact hbefore j (by omega) _ (List.getElem?_eq_getElem (by omega))

theorem findSome?_of_getElem? {i : Nat} {a : α} (h : items.findSome? f = none)
    (hitem : items[i]? = some a) : f a = none :=
  List.findSome?_eq_none_iff.mp h a (List.mem_of_getElem? hitem)

/-- A search passes over a front without results. -/
theorem findSome?_append_of_silent {front : List α} (h : ∀ a ∈ front, f a = none) {a : α}
    (ha : f a = some b) (back : List α) : (front ++ a :: back).findSome? f = some b :=
  List.findSome?_eq_some_iff.mpr ⟨front, a, back, rfl, ha, h⟩

end Search

namespace DistributionPoint

/-- The first URI of a point. -/
def firstUri? (point : DistributionPoint) : Option String := point.uris.head?

theorem firstUri?_full (names : List GeneralName) :
    firstUri? ⟨some (.full names)⟩ = names.findSome? GeneralName.uri? := List.head?_filterMap

theorem IsSilent.firstUri?_eq_none {point : DistributionPoint} (h : point.IsSilent) :
    point.firstUri? = none := by
  cases h with
  | unnamed => rfl
  | relative => rfl
  | noUri none_uri => rw [firstUri?_full, List.findSome?_eq_none_iff.mpr none_uri]

/-- A point gives a URI by a full name only. -/
theorem exists_full_of_firstUri? {point : DistributionPoint} {uri : String}
    (h : point.firstUri? = some uri) : ∃ names, point = ⟨some (.full names)⟩ := by
  obtain ⟨_ | ⟨names | _⟩⟩ := point
  · cases h
  · exact ⟨names, rfl⟩
  · cases h

end DistributionPoint

namespace Certificate

open DistributionPoint (firstUri? firstUri?_full exists_full_of_firstUri?)

/-- A general name stands at a place of a certificate: in a point with a full name, of an extension
of distribution points that decodes. -/
def StandsAt (c : Certificate) (place : Place) (name : GeneralName) : Prop :=
  ∃ e points names, c.extensions[place.extension]? = some e ∧
    e.type = Extension.distributionPointsType ∧
    DistributionPoint.decodeAll? e.value = some points ∧
    points[place.point]? = some ⟨some (.full names)⟩ ∧ names[place.name]? = some name

/-- A URI that no other one comes before. -/
def FirstUri (c : Certificate) (uri : String) : Prop :=
  ∃ place, c.StandsAt place (.uri uri) ∧
    ∀ earlier other, earlier.Before place → ¬ c.StandsAt earlier (.uri other)

variable {c : Certificate}

/-- There is one name at most at a place. -/
theorem StandsAt.unique {place : Place} {name other : GeneralName} (h : c.StandsAt place name)
    (hother : c.StandsAt place other) : name = other := by
  obtain ⟨e, points, names, he, -, hpoints, hpoint, hname⟩ := h
  obtain ⟨e', points', names', he', -, hpoints', hpoint', hname'⟩ := hother
  obtain rfl := Option.some.inj (he.symm.trans he')
  obtain rfl := Option.some.inj (hpoints.symm.trans hpoints')
  cases Option.some.inj (hpoint.symm.trans hpoint')
  exact Option.some.inj (hname.symm.trans hname')

/-- The points that an extension has are those that it decodes to. -/
theorem getElem?_pointsOf {e : Extension} {j : Nat} {point : DistributionPoint} :
    (pointsOf e)[j]? = some point ↔ e.type = Extension.distributionPointsType ∧
      ∃ points, DistributionPoint.decodeAll? e.value = some points ∧ points[j]? = some point := by
  rw [pointsOf]
  split
  case isTrue htype =>
    cases DistributionPoint.decodeAll? e.value <;> simp [htype]
  case isFalse htype => simp [htype]

theorem standsAt_iff {place : Place} {name : GeneralName} :
    c.StandsAt place name ↔ ∃ e names, c.extensions[place.extension]? = some e ∧
      (pointsOf e)[place.point]? = some ⟨some (.full names)⟩ ∧
      names[place.name]? = some name := by
  constructor
  · rintro ⟨e, points, names, he, htype, hpoints, hpoint, hname⟩
    exact ⟨e, names, he, getElem?_pointsOf.mpr ⟨htype, points, hpoints, hpoint⟩, hname⟩
  · rintro ⟨e, names, he, hpoint, hname⟩
    obtain ⟨htype, points, hpoints, hpoint⟩ := getElem?_pointsOf.mp hpoint
    exact ⟨e, points, names, he, htype, hpoints, hpoint, hname⟩

/-- The search in an extension. -/
def searchPoints (e : Extension) : Option String := (pointsOf e).findSome? firstUri?

/-- The search goes through the extensions, in each of them through its points, and in each of these
through its names. -/
theorem distributionPoint?_eq_findSome? (c : Certificate) :
    c.distributionPoint? = c.extensions.findSome? searchPoints := by
  rw [distributionPoint?, List.head?_flatMap]
  congr 1
  funext e
  exact List.head?_flatMap

/-- A URI at a place is met by the search in its extension and in its point. -/
theorem StandsAt.searched {place : Place} {uri : String} (h : c.StandsAt place (.uri uri)) :
    ∃ e point, c.extensions[place.extension]? = some e ∧
      (pointsOf e)[place.point]? = some point ∧ point.firstUri? ≠ none ∧
      searchPoints e ≠ none := by
  obtain ⟨e, names, he, hpoint, hname⟩ := standsAt_iff.mp h
  have hfirst : firstUri? ⟨some (.full names)⟩ ≠ none := by
    rw [firstUri?_full]
    intro hnone
    cases findSome?_of_getElem? hnone hname
  exact ⟨e, _, he, hpoint, hfirst, fun hnone => hfirst (findSome?_of_getElem? hnone hpoint)⟩

theorem firstUri_of_distributionPoint? {uri : String} (h : c.distributionPoint? = some uri) :
    c.FirstUri uri := by
  rw [distributionPoint?_eq_findSome?, findSome?_eq_some_iff_getElem?] at h
  obtain ⟨i, e, he, hsearch, hextensions⟩ := h
  obtain ⟨j, point, hpoint, hfirst, hpoints⟩ := findSome?_eq_some_iff_getElem?.mp hsearch
  obtain ⟨names, rfl⟩ := exists_full_of_firstUri? hfirst
  rw [firstUri?_full, findSome?_eq_some_iff_getElem?] at hfirst
  obtain ⟨k, name, hname, huri, hnames⟩ := hfirst
  obtain rfl : name = .uri uri := by
    cases name <;> cases huri
    rfl
  refine ⟨⟨i, j, k⟩, standsAt_iff.mpr ⟨e, names, he, hpoint, hname⟩, ?_⟩
  intro earlier other hbefore hstands
  obtain ⟨e', point', he', hpoint', hfirst', hsearch'⟩ := hstands.searched
  -- The earlier place is in an extension, in a point or at a name that the search has left behind.
  rcases hbefore with hextension | ⟨hextension, hpointBefore | ⟨hpointSame, hnameBefore⟩⟩
  · exact hsearch' (hextensions _ hextension _ he')
  · rw [hextension] at he'
    obtain rfl := Option.some.inj (he.symm.trans he')
    exact hfirst' (hpoints _ hpointBefore _ hpoint')
  · obtain ⟨e'', names', he'', hpoint'', hname'⟩ := standsAt_iff.mp hstands
    rw [hextension] at he''
    obtain rfl := Option.some.inj (he.symm.trans he'')
    rw [hpointSame] at hpoint''
    cases Option.some.inj (hpoint.symm.trans hpoint'')
    cases hnames _ hnameBefore _ hname'

theorem distributionPoint?_eq_none_iff :
    c.distributionPoint? = none ↔ ∀ place uri, ¬ c.StandsAt place (.uri uri) := by
  constructor
  · intro hnone place uri hstands
    obtain ⟨e, -, he, -, -, hsearch⟩ := hstands.searched
    rw [distributionPoint?_eq_findSome?] at hnone
    exact hsearch (findSome?_of_getElem? hnone he)
  · intro hnone
    rw [Option.eq_none_iff_forall_ne_some]
    intro uri hsome
    obtain ⟨place, hstands, -⟩ := firstUri_of_distributionPoint? hsome
    exact hnone place uri hstands

/-- What is found is the first URI, and the first URI is found. -/
theorem distributionPoint?_eq_some_iff {uri : String} :
    c.distributionPoint? = some uri ↔ c.FirstUri uri := by
  constructor
  · exact firstUri_of_distributionPoint?
  · rintro ⟨place, hstands, hearliest⟩
    cases hfound : c.distributionPoint? with
    | none => exact absurd hstands (distributionPoint?_eq_none_iff.mp hfound place uri)
    | some other =>
        -- Neither of the two places comes before the other one.
        obtain ⟨place', hstands', hearliest'⟩ := firstUri_of_distributionPoint? hfound
        rcases place.before_or_eq_or_before place' with hbefore | rfl | hbefore
        · exact absurd hstands (hearliest' _ _ hbefore)
        · cases hstands.unique hstands'
          rfl
        · exact absurd hstands' (hearliest _ _ hbefore)

/-- Silent points in front, in the extension or in those before it, and other names in the same
point hide no URI. -/
theorem distributionPoint?_of_silent {front back : List Extension} {e : Extension}
    {quiet points : List DistributionPoint} {others more : List GeneralName} {uri : String}
    (hextensions : c.extensions = front ++ e :: back)
    (hfront : ∀ x ∈ front, ∀ point ∈ pointsOf x, point.IsSilent)
    (hpoints : pointsOf e = quiet ++ ⟨some (.full (others ++ .uri uri :: more))⟩ :: points)
    (hquiet : ∀ point ∈ quiet, point.IsSilent) (hothers : ∀ name ∈ others, name.uri? = none) :
    c.distributionPoint? = some uri := by
  have hname : firstUri? ⟨some (.full (others ++ .uri uri :: more))⟩ = some uri := by
    rw [firstUri?_full]
    exact findSome?_append_of_silent hothers rfl more
  have hpoint : searchPoints e = some uri := by
    rw [searchPoints, hpoints]
    exact findSome?_append_of_silent (fun point hmem => (hquiet point hmem).firstUri?_eq_none)
      hname points
  rw [distributionPoint?_eq_findSome?, hextensions]
  refine findSome?_append_of_silent (fun x hx => ?_) hpoint back
  exact List.findSome?_eq_none_iff.mpr fun point hmem => (hfront x hx point hmem).firstUri?_eq_none

end Certificate

end RevocationCheck.X509

namespace RevocationCheck.Verification

open X509 (DistributionPoint Extension GeneralName)
open X509.Certificate (pointsOf)

/-- **The first URI is the distribution point**, in the order of extensions, points and names, and
there is none if and only if there is no URI at all.  Points without a URI, whether they have no
name, a relative name or a full name of other kinds, do not end the search.  The URI that is found
is the one text that the check of the certificate asks for, whatever the policy says. -/
theorem first_uri_is_fetched (certificate : X509.Certificate) :
    (∀ uri, certificate.distributionPoint? = some uri ↔ certificate.FirstUri uri) ∧
    (certificate.distributionPoint? = none ↔
      ∀ place uri, ¬ certificate.StandsAt place (.uri uri)) ∧
    (∀ (front back : List Extension) (e : Extension) (quiet points : List DistributionPoint)
      (others more : List GeneralName) (uri : String),
      certificate.extensions = front ++ e :: back →
      (∀ x ∈ front, ∀ point ∈ pointsOf x, point.IsSilent) →
      pointsOf e = quiet ++ ⟨some (.full (others ++ .uri uri :: more))⟩ :: points →
      (∀ point ∈ quiet, point.IsSilent) → (∀ name ∈ others, name.uri? = none) →
        certificate.distributionPoint? = some uri) ∧
    ∀ uri, certificate.FirstUri uri → ∀ world policy offline issuer,
      (checkCertificate world policy offline certificate issuer).fetched = [uri] := by
  refine ⟨fun uri => X509.Certificate.distributionPoint?_eq_some_iff,
    X509.Certificate.distributionPoint?_eq_none_iff, ?_, ?_⟩
  · intro front back e quiet points others more uri
    exact X509.Certificate.distributionPoint?_of_silent
  · intro uri hfirst world policy offline issuer
    rw [checkCertificate_fetched, urlFor?,
      X509.Certificate.distributionPoint?_eq_some_iff.mpr hfirst]
    rfl

/-! ### A sample -/

namespace Sample

open RevocationList (shortElement)

/-- A point with a full name. -/
def fullPoint (names : Octets) : Octets :=
  shortElement 0x30 (shortElement 0xA0 (shortElement 0xA0 names))

/-- Points without a name, with a relative name, with a name that is no URI, with such a name and
the URI `a:`, and with the URI `b:`. -/
def mixedPoints : Octets :=
  shortElement 0x30 (shortElement 0x30 [] ++
    shortElement 0x30 (shortElement 0xA0 (shortElement 0xA1 [])) ++
    fullPoint (shortElement 0x82 [100]) ++
    fullPoint (shortElement 0x82 [100] ++ shortElement 0x86 [97, 58]) ++
    fullPoint (shortElement 0x86 [98, 58]))

/-- A certificate with these points, behind an extension of another kind and one that does not
decode. -/
def mixed : X509.Certificate :=
  certificate [⟨Extension.keyUsageType, false, mixedPoints⟩,
    ⟨Extension.distributionPointsType, false, [0x30]⟩,
    ⟨Extension.distributionPointsType, true, mixedPoints⟩]

end Sample

/-- The URI `a:` is found behind all that is no URI, and it is fetched although a distribution point
is configured. -/
theorem first_uri_is_fetched_sample :
    Sample.mixed.distributionPoint? = some "a:" ∧
      (checkCertificate (Sample.world true) (Sample.policy true) none Sample.mixed
        Sample.mixed).fetched = ["a:"] := by
  obtain ⟨hfirst, -, hsilent, hfetched⟩ := first_uri_is_fetched Sample.mixed
  have hfront : ∀ x ∈ [(⟨Extension.keyUsageType, false, Sample.mixedPoints⟩ : Extension),
      ⟨Extension.distributionPointsType, false, [0x30]⟩], pointsOf x = [] := by decide +kernel
  have hpoints : pointsOf ⟨Extension.distributionPointsType, true, Sample.mixedPoints⟩ =
      [⟨none⟩, ⟨some .relative⟩, ⟨some (.full [.dns "d"])⟩] ++
        ⟨some (.full ([.dns "d"] ++ .uri "a:" :: []))⟩ :: [⟨some (.full [.uri "b:"])⟩] := by
    decide +kernel
  have hdns : ∀ name ∈ [GeneralName.dns "d"], name.uri? = none := by simp [GeneralName.uri?]
  have hfound : Sample.mixed.distributionPoint? = some "a:" := by
    refine hsilent [_, _] [] _ _ _ _ _ _ rfl (fun x hx point hmem => ?_) hpoints ?_ hdns
    · rw [hfront x hx] at hmem
      cases hmem
    · simp only [List.forall_mem_cons]
      exact ⟨.unnamed, .relative, .noUri hdns, by simp⟩
  exact ⟨hfound, hfetched "a:" ((hfirst "a:").mp hfound) _ _ _ _⟩

end RevocationCheck.Verification
