import Skplat.HttpTransfer.Defs
import Skplat.Url.Parse

/-!
# Where a redirect leads

`relocation` writes the new url over the old one.  If the location has no colon it is put
behind a part of the old url, and the length of that part is counted from the host although
the part begins at the schema.
-/

namespace Skplat
namespace Url

open CString
open HttpTransfer (ok badValue unknownError)

/-- How far the first slash behind the host is from the host, where the host is its first
occurrence in `mHref`; or none if the host does not occur. -/
def slashDistance (url : Url) : Option (Option Nat) :=
  (strstr url.mHost url.mHref).map fun host =>
    (strchr 47 (url.mHref.drop host)).map fun parts => parts.1.length

/-- `parseReloc`, or none if it searches behind a host that does not occur. -/
def parseReloc (location : List UInt8) (url : Url) : Option Url :=
  match strchr 58 location with
  | some _ => some (parseUrl location url).1
  | none =>
      (slashDistance url).map fun path =>
        -- `mHref.size()` without a slash, and else `path - host + 1`
        let size := path.elim url.mHref.length fun distance => distance + 1
        (parseUrl (url.mHref.take size ++ location) url).1

/-- `HttpResponse::relocation`: the result, and the url of the request. -/
def relocation (reloc : Option (List UInt8)) (url : Url) : Option (Int × Url) :=
  match reloc with
  | none => some (badValue, url)
  | some location =>
      match strchr 58 location with
      | none => (parseReloc location url).map fun parsed => (ok, parsed)
      | some _ =>
          let (parsed, accepted) := parseUrl location url
          some (if accepted then ok else unknownError, parsed)

/-- `parseUrl` has accepted a string and written it over some url. -/
def Filled (url : Url) : Prop :=
  ∃ str old, 0 ∉ str ∧ parseUrl str old = (url, true)

/-- The schema, the host and the port of an url.  The text of the host is the host, or the
host in brackets. -/
def origin (url : Url) (hostText : List UInt8) : List UInt8 :=
  url.mSchema ++ ascii "://" ++ hostText ++
    if url.mPort = [] then [] else 58 :: url.mPort

/-- A location without its leading slash. -/
def withoutSlash (location : List UInt8) : List UInt8 :=
  if location.head? = some 47 then location.tail else location

/-- The url at which a location without a schema is. -/
def target (url : Url) (hostText location : List UInt8) : List UInt8 :=
  origin url hostText ++ 47 :: withoutSlash location

/-- The part of the old url that is kept is the schema, the host and the port, with a slash
if the location has none. -/
def KeepsOrigin (url : Url) (hostText location : List UInt8) : Prop :=
  match slashDistance url with
  | none => False
  | some none => location.head? = some 47 ∧ url.mHref = origin url hostText
  | some (some distance) =>
      url.mHref.take (distance + 1) =
        origin url hostText ++ if location.head? = some 47 then [] else [47]

variable {url : Url} {hostText location : List UInt8}

/-- The host of an url that was read occurs in it. -/
theorem exists_slashDistance (filled : Filled url) : ∃ path, slashDistance url = some path := by
  obtain ⟨str, old, nonzero, parsed⟩ := filled
  have nonempty : str ≠ [] := by
    rintro rfl
    cases parsed
  rw [parseUrl_eq nonempty] at parsed
  obtain ⟨rfl, accepted⟩ := Prod.mk.inj parsed
  obtain ⟨host, isRead, inside⟩ := exists_host_components accepted
  have occurs : strstr ((components str).1.write { old with mHref := str }).mHost str ≠ none := by
    refine strstr_ne_none nonzero ?_
    rw [Components.write, isRead]
    exact inside
  obtain ⟨position, found⟩ := Option.ne_none_iff_exists'.mp occurs
  exact ⟨_, Option.map_eq_some_iff.mpr ⟨position, found, rfl⟩⟩

theorem Filled.mHref_ne_nil (filled : Filled url) : url.mHref ≠ [] := by
  obtain ⟨str, old, _, parsed⟩ := filled
  have nonempty : str ≠ [] := by
    rintro rfl
    cases parsed
  rw [parseUrl_eq nonempty] at parsed
  obtain ⟨rfl, _⟩ := Prod.mk.inj parsed
  exact nonempty

/-- What two strings are read to, one of them over an old url. -/
theorem parseUrl_eq_parseUrl_fresh_iff
    {str other : List UInt8} (nonempty : str ≠ []) (otherNonempty : other ≠ []) :
    (parseUrl str url).1 = (parseUrl other fresh).1 ↔
      str = other ∧ (components other).1.Covers url := by
  constructor
  · intro same
    have href : str = other := by
      have hrefs := congrArg mHref same
      rw [parseUrl_eq nonempty, parseUrl_eq otherNonempty] at hrefs
      exact hrefs
    subst href
    rw [parseUrl_eq nonempty, parseUrl_eq nonempty] at same
    exact ⟨rfl, (Components.write_eq_write_fresh_iff _ _ _).mp same⟩
  · rintro ⟨rfl, covers⟩
    rw [parseUrl_eq nonempty, parseUrl_eq nonempty]
    exact (Components.write_eq_write_fresh_iff _ _ _).mpr covers

/-- A slash at the end of an url stands behind the first occurrence of its host. -/
theorem ne_append_slash
    (distance : slashDistance url = some none) (front : List UInt8) :
    url.mHref ≠ front ++ [47] := by
  intro ends
  obtain ⟨host, found, absent⟩ := Option.map_eq_some_iff.mp distance
  rw [Option.map_eq_none_iff, strchr_eq_none_iff] at absent
  have inside := add_length_le_of_strstr found
  by_cases atEnd : host < url.mHref.length
  · refine absent ?_
    rw [ends] at atEnd ⊢
    rw [List.length_append, List.length_singleton] at atEnd
    rw [List.drop_append_of_le_length (by omega)]
    exact List.mem_append_right _ List.mem_cons_self
  · have noHost : url.mHost = [] := List.length_eq_zero_iff.mp (by omega)
    have atStart : host = 0 := by
      rw [noHost, ends] at found
      cases front with
      | nil => simpa [strstr] using found.symm
      | cons first front => simpa [strstr] using found.symm
    rw [atStart, ends] at atEnd
    exact atEnd (by simp)

/-- What is parsed is the target if and only if the right part of the old url is kept. -/
theorem take_append_eq_target_iff
    {path : Option Nat} (distance : slashDistance url = some path)
    (hostText location : List UInt8) :
    url.mHref.take (path.elim url.mHref.length (· + 1)) ++ location =
        target url hostText location ↔
      KeepsOrigin url hostText location := by
  have slash (starts : location.head? = some 47) :
      target url hostText location = origin url hostText ++ location := by
    obtain ⟨rest, rfl⟩ := List.head?_eq_some_iff.mp starts
    rfl
  have noSlash (starts : location.head? ≠ some 47) :
      target url hostText location = (origin url hostText ++ [47]) ++ location := by
    rw [target, withoutSlash, if_neg starts, List.append_assoc]
    rfl
  rw [KeepsOrigin, distance]
  by_cases starts : location.head? = some 47
  · rw [slash starts, List.append_left_inj]
    cases path with
    | none =>
        rw [Option.elim_none, List.take_length]
        exact (and_iff_right starts).symm
    | some distance =>
        dsimp only
        rw [if_pos starts, List.append_nil]
        rfl
  · rw [noSlash starts, List.append_left_inj]
    cases path with
    | none =>
        rw [Option.elim_none, List.take_length]
        exact iff_of_false (ne_append_slash distance _) fun keeps => starts keeps.1
    | some distance =>
        dsimp only
        rw [if_neg starts]
        rfl

/-- Nothing of the old url survives a redirect to an absolute url if and only if the old url
has no components but those of the new one. -/
theorem relocation_absolute_iff
    (url : Url) (accepted : (parseUrl location fresh).2 = true) :
    (∃ result, relocation (some location) url =
        some (result, (parseUrl location fresh).1)) ↔
      (components location).1.Covers url := by
  have nonempty : location ≠ [] := by
    rintro rfl
    cases accepted
  have isAccepted : (components location).2 = true := by
    rwa [parseUrl_eq nonempty] at accepted
  have relocated : ∃ result, relocation (some location) url =
      some (result, (parseUrl location url).1) := by
    cases found : strchr 58 location with
    | none =>
        rw [components, found] at isAccepted
        cases isAccepted
    | some parts =>
        refine ⟨if (parseUrl location url).2 then ok else unknownError, ?_⟩
        rw [relocation]
        dsimp only
        rw [found]
  obtain ⟨result, relocated⟩ := relocated
  have same := @parseUrl_eq_parseUrl_fresh_iff url location location nonempty nonempty
  rw [and_iff_right rfl] at same
  rw [relocated, ← same]
  simp

/-- A location without a schema leads to the old origin if and only if the part of the old url
that is kept is just its origin, and no other components survive. -/
theorem relocation_relative_iff
    (hostText : List UInt8) (filled : Filled url) (noColon : 58 ∉ location) :
    (∃ result, relocation (some location) url =
        some (result, (parseUrl (target url hostText location) fresh).1)) ↔
      KeepsOrigin url hostText location ∧
        (components (target url hostText location)).1.Covers url := by
  obtain ⟨path, distance⟩ := exists_slashDistance filled
  have noSchema : strchr 58 location = none := strchr_eq_none_iff.mpr noColon
  have relocated : relocation (some location) url =
      some (ok, (parseUrl
        (url.mHref.take (path.elim url.mHref.length (· + 1)) ++ location) url).1) := by
    rw [relocation]
    dsimp only
    rw [noSchema]
    dsimp only
    rw [parseReloc, noSchema]
    dsimp only
    rw [distance]
    rfl
  have nonempty :
      url.mHref.take (path.elim url.mHref.length (· + 1)) ++ location ≠ [] := by
    have positive := List.length_pos_iff.mpr filled.mHref_ne_nil
    rw [ne_eq, List.append_eq_nil_iff, List.take_eq_nil_iff, not_and_or, not_or]
    refine Or.inl ⟨?_, filled.mHref_ne_nil⟩
    cases path with
    | none => exact Nat.ne_of_gt positive
    | some before => exact Nat.succ_ne_zero before
  have targetNonempty : target url hostText location ≠ [] := by
    simp [target]
  rw [relocated, ← take_append_eq_target_iff distance,
    ← parseUrl_eq_parseUrl_fresh_iff nonempty targetNonempty]
  simp

/-- Where a redirect leads, for every url and every location. -/
theorem relocation_iff (url : Url) (hostText location : List UInt8) :
    ((parseUrl location fresh).2 = true →
      ((∃ result, relocation (some location) url =
        some (result, (parseUrl location fresh).1)) ↔
      (components location).1.Covers url)) ∧
    (Filled url → 58 ∉ location →
      ((∃ result, relocation (some location) url =
        some (result, (parseUrl (target url hostText location) fresh).1)) ↔
      KeepsOrigin url hostText location ∧
        (components (target url hostText location)).1.Covers url)) := by
  constructor
  · intro accepted
    exact relocation_absolute_iff url accepted
  · intro filled noColon
    exact relocation_relative_iff hostText filled noColon

/-- A port survives a redirect to another host, and a redirect to another path leads to what is
left of the schema. -/
theorem relocation_keeps_port :
    (Filled (parseUrl (ascii "http://a:81/") fresh).1 ∧
      (parseUrl (ascii "http://b/") fresh).2 = true ∧
      ¬∃ result, relocation (some (ascii "http://b/"))
          (parseUrl (ascii "http://a:81/") fresh).1 =
        some (result, (parseUrl (ascii "http://b/") fresh).1)) ∧
    Filled (parseUrl (ascii "http://a/") fresh).1 ∧ 58 ∉ ascii "y" ∧
      (relocation (some (ascii "y")) (parseUrl (ascii "http://a/") fresh).1).map
          (fun answer => answer.2.mHref) = some (ascii "hty") ∧
      ¬∃ result, relocation (some (ascii "y")) (parseUrl (ascii "http://a/") fresh).1 =
        some (result, (parseUrl (target (parseUrl (ascii "http://a/") fresh).1 (ascii "a")
          (ascii "y")) fresh).1) := by
  constructor
  · have accepted : (parseUrl (ascii "http://a:81/") fresh).2 = true := by
      decide
    refine ⟨⟨_, fresh, by decide, Prod.ext rfl accepted⟩, by decide, ?_⟩
    rintro ⟨result, relocated⟩
    have ports := congrArg (Option.map fun answer => answer.2.mPort) relocated
    have old : (relocation (some (ascii "http://b/"))
        (parseUrl (ascii "http://a:81/") fresh).1).map (fun answer => answer.2.mPort) =
          some (ascii "81") := by
      decide
    have new : (parseUrl (ascii "http://b/") fresh).1.mPort = [] := by
      decide
    rw [old, Option.map_some, new] at ports
    cases ports
  · have accepted : (parseUrl (ascii "http://a/") fresh).2 = true := by
      decide
    have cut : (relocation (some (ascii "y")) (parseUrl (ascii "http://a/") fresh).1).map
        (fun answer => answer.2.mHref) = some (ascii "hty") := by
      decide
    refine ⟨⟨_, fresh, by decide, Prod.ext rfl accepted⟩, by decide, cut, ?_⟩
    rintro ⟨result, relocated⟩
    have hrefs := congrArg (Option.map fun answer => answer.2.mHref) relocated
    have whole : (parseUrl (target (parseUrl (ascii "http://a/") fresh).1 (ascii "a")
        (ascii "y")) fresh).1.mHref = ascii "http://a/y" := by
      decide
    rw [cut, Option.map_some, whole] at hrefs
    exact absurd (Option.some.inj hrefs) (by decide)

end Url
end Skplat
