import Skplat.BasicHashtable.KeyedHash
import Skplat.Data.CString

/-!
# What `parseUrl` reads and writes

`parseUrl` writes into an url that exists already, field by field as it reads the string.
A field whose component is absent keeps its old value.  The components that a string has
are collected apart, and writing them over an url is what `parseUrl` does.

Strings have no zeros, since they are C strings.
-/

namespace Skplat

open BasicHashtable CString

/-- `Url`. -/
@[ext] structure Url where
  mHref : List UInt8
  mSchema : List UInt8
  mUsername : List UInt8
  mPassword : List UInt8
  mHost : List UInt8
  mPort : List UInt8
  mPath : List UInt8
  mFragment : List UInt8
  /-- The value of the query with a key. -/
  mQueries : List UInt8 → Option (List UInt8)

namespace Url

/-- `Url()`. -/
def fresh : Url where
  mHref := []
  mSchema := []
  mUsername := []
  mPassword := []
  mHost := []
  mPort := []
  mPath := []
  mFragment := []
  mQueries := fun _ => none

/-- `mQueries.add`, which replaces the query with the same key. -/
def addQuery (key value : List UInt8) (url : Url) : Url :=
  { url with mQueries := fun other => if other = key then some value else url.mQueries other }

/-- `parseQuery`, for at most as many queries as `fuel` says. -/
def parseQueryLoop : Nat → List UInt8 → Url → Url
  | 0, _, url => url
  | fuel + 1, query, url =>
      match strchr 61 query with
      | none => url
      | some (key, query) =>
          match strchr 38 query with
          | some (value, query) => parseQueryLoop fuel query (url.addQuery key value)
          | none => url.addQuery key query

/-- `parseQuery`.  Every query has a byte of its own. -/
def parseQuery (query : List UInt8) (url : Url) : Url :=
  parseQueryLoop query.length query url

/-- The part of `parseUrl` for the path, the query and the fragment. -/
def parsePath (str : List UInt8) (url : Url) : Url :=
  if str = [] then url
  else
    match strchr 63 str with
    | some (path, str) =>
        let url := { url with mPath := path }
        match strchr 35 str with
        | some (query, fragment) => parseQuery query { url with mFragment := fragment }
        | none => parseQuery str url
    | none =>
        match strchr 35 str with
        | some (path, fragment) => { url with mPath := path, mFragment := fragment }
        | none => { url with mPath := str }

/-- The part of `parseUrl` behind the colon of a port. -/
def parsePort (str : List UInt8) (url : Url) : Url :=
  match strchr 47 str with
  | some (port, str) => parsePath str { url with mPort := port }
  | none => parsePath [] { url with mPort := str }

/-- The part of `parseUrl` behind a host in brackets. -/
def parseBracketEnd (str : List UInt8) (url : Url) : Url :=
  match str with
  | 58 :: str => parsePort str url
  | str => parsePath str url

/-- A host that is not in brackets and has no port. -/
def parseName (str : List UInt8) (url : Url) : Url :=
  match strchr 47 str with
  | some (host, str) => parsePath str { url with mHost := host }
  | none => parsePath [] { url with mHost := str }

/-- The part of `parseUrl` for the host.  The flag says whether the url is accepted. -/
def parseHost (str : List UInt8) (url : Url) : Url × Bool :=
  match str with
  | 91 :: str =>
      match strchr 93 str with
      | none => (url, false)
      | some (host, str) => (parseBracketEnd str { url with mHost := host }, true)
  | str =>
      match strchr 58 str with
      | some (host, behind) =>
          -- the colon stands in front of the first slash
          if 47 ∉ host then (parsePort behind { url with mHost := host }, true)
          else (parseName str url, true)
      | none => (parseName str url, true)

/-- The part of `parseUrl` for the user. -/
def parseUser (str : List UInt8) (url : Url) : Url × Bool :=
  match strchr 64 str with
  | none => parseHost str url
  | some _ =>
      match strchr 58 str with
      | none => (url, false)
      | some (username, str) =>
          let url := { url with mUsername := username }
          match strchr 64 str with
          | none => (url, false)
          | some (password, str) => parseHost str { url with mPassword := password }

/-- `parseUrl`: the url that is left, and whether it is returned. -/
def parseUrl (str : List UInt8) (url : Url) : Url × Bool :=
  if str = [] then (url, false)
  else
    let url := { url with mHref := str }
    match strchr 58 str with
    | some (schema, 47 :: 47 :: str) => parseUser str { url with mSchema := schema }
    | _ => (url, false)

/-! ## Components -/

/-- The components that are read of a string. -/
structure Components where
  schema : Option (List UInt8)
  username : Option (List UInt8)
  password : Option (List UInt8)
  host : Option (List UInt8)
  port : Option (List UInt8)
  path : Option (List UInt8)
  fragment : Option (List UInt8)
  /-- The queries in their order. -/
  queries : List (List UInt8 × List UInt8)
  deriving DecidableEq, Repr

namespace Components

/-- No component is read. -/
def empty : Components where
  schema := none
  username := none
  password := none
  host := none
  port := none
  path := none
  fragment := none
  queries := []

/-- The queries of a string, for at most as many as `fuel` says. -/
def queriesOf : Nat → List UInt8 → List (List UInt8 × List UInt8)
  | 0, _ => []
  | fuel + 1, query =>
      match strchr 61 query with
      | none => []
      | some (key, query) =>
          match strchr 38 query with
          | some (value, query) => (key, value) :: queriesOf fuel query
          | none => [(key, query)]

/-- The path, the query and the fragment. -/
def withPath (str : List UInt8) (read : Components) : Components :=
  if str = [] then read
  else
    match strchr 63 str with
    | some (path, str) =>
        match strchr 35 str with
        | some (query, fragment) =>
            { read with
              path := some path
              fragment := some fragment
              queries := read.queries ++ queriesOf query.length query }
        | none =>
            { read with
              path := some path
              queries := read.queries ++ queriesOf str.length str }
    | none =>
        match strchr 35 str with
        | some (path, fragment) => { read with path := some path, fragment := some fragment }
        | none => { read with path := some str }

/-- A port, and what follows its slash. -/
def withPort (str : List UInt8) (read : Components) : Components :=
  match strchr 47 str with
  | some (port, str) => withPath str { read with port := some port }
  | none => { read with port := some str }

/-- What follows a host in brackets. -/
def withBracketEnd (str : List UInt8) (read : Components) : Components :=
  match str with
  | 58 :: str => withPort str read
  | str => withPath str read

/-- A host without a port, and what follows its slash. -/
def withName (str : List UInt8) (read : Components) : Components :=
  match strchr 47 str with
  | some (host, str) => withPath str { read with host := some host }
  | none => { read with host := some str }

/-- A host, and what follows it.  The flag says whether it is complete. -/
def withHost (str : List UInt8) (read : Components) : Components × Bool :=
  match str with
  | 91 :: str =>
      match strchr 93 str with
      | none => (read, false)
      | some (host, str) => (withBracketEnd str { read with host := some host }, true)
  | str =>
      match strchr 58 str with
      | some (host, behind) =>
          if 47 ∉ host then (withPort behind { read with host := some host }, true)
          else (withName str read, true)
      | none => (withName str read, true)

/-- A user, and what follows it. -/
def withUser (str : List UInt8) (read : Components) : Components × Bool :=
  match strchr 64 str with
  | none => withHost str read
  | some _ =>
      match strchr 58 str with
      | none => (read, false)
      | some (username, str) =>
          match strchr 64 str with
          | none => ({ read with username := some username }, false)
          | some (password, str) =>
              withHost str
                { read with username := some username, password := some password }

/-- Queries written over others. -/
def overwrite
    (queries : List UInt8 → Option (List UInt8)) (query : List UInt8 × List UInt8) :
    List UInt8 → Option (List UInt8) :=
  fun other => if other = query.1 then some query.2 else queries other

/-- An url with some components written over it. -/
def write (read : Components) (url : Url) : Url where
  mHref := url.mHref
  mSchema := read.schema.getD url.mSchema
  mUsername := read.username.getD url.mUsername
  mPassword := read.password.getD url.mPassword
  mHost := read.host.getD url.mHost
  mPort := read.port.getD url.mPort
  mPath := read.path.getD url.mPath
  mFragment := read.fragment.getD url.mFragment
  mQueries := read.queries.foldl overwrite url.mQueries

/-- An url has no components but those that are read. -/
structure Covers (read : Components) (url : Url) : Prop where
  schema : read.schema = none → url.mSchema = []
  username : read.username = none → url.mUsername = []
  password : read.password = none → url.mPassword = []
  host : read.host = none → url.mHost = []
  port : read.port = none → url.mPort = []
  path : read.path = none → url.mPath = []
  fragment : read.fragment = none → url.mFragment = []
  queries : ∀ key, url.mQueries key ≠ none → key ∈ read.queries.map Prod.fst

end Components

/-- The components of a string, and whether it is accepted. -/
def components (str : List UInt8) : Components × Bool :=
  match strchr 58 str with
  | some (schema, 47 :: 47 :: str) =>
      Components.withUser str { Components.empty with schema := some schema }
  | _ => (.empty, false)

namespace Components

variable (read : Components) (url : Url)

/-! ## Writing components is what the parser does -/

theorem parseQueryLoop_eq (fuel : Nat) (query : List UInt8) (url : Url) :
    parseQueryLoop fuel query url =
      { url with mQueries := (queriesOf fuel query).foldl overwrite url.mQueries } := by
  induction fuel generalizing query url with
  | zero => rfl
  | succ fuel inductionHypothesis =>
      rw [parseQueryLoop, queriesOf]
      cases strchr 61 query with
      | none => rfl
      | some parts =>
          dsimp only
          cases strchr 38 parts.2 with
          | none => rfl
          | some more =>
              dsimp only
              rw [inductionHypothesis]
              rfl

theorem parseQuery_write (query : List UInt8) :
    parseQuery query (read.write url) =
      { read with queries := read.queries ++ queriesOf query.length query }.write url := by
  rw [parseQuery, parseQueryLoop_eq]
  simp only [write, List.foldl_append]

theorem parsePath_write (str : List UInt8) :
    parsePath str (read.write url) = (read.withPath str).write url := by
  unfold parsePath withPath
  by_cases empty : str = []
  · rw [if_pos empty, if_pos empty]
  · rw [if_neg empty, if_neg empty]
    cases strchr 63 str with
    | some parts =>
        dsimp only
        cases strchr 35 parts.2 with
        | some more =>
            exact parseQuery_write
              { read with path := some parts.1, fragment := some more.2 } url more.1
        | none => exact parseQuery_write { read with path := some parts.1 } url parts.2
    | none =>
        dsimp only
        cases strchr 35 str with
        | some parts => rfl
        | none => rfl

theorem parsePort_write (str : List UInt8) :
    parsePort str (read.write url) = (read.withPort str).write url := by
  unfold parsePort withPort
  cases strchr 47 str with
  | some parts => exact parsePath_write { read with port := some parts.1 } url parts.2
  | none => rfl

theorem parseBracketEnd_write (str : List UInt8) :
    parseBracketEnd str (read.write url) = (read.withBracketEnd str).write url := by
  unfold parseBracketEnd withBracketEnd
  split
  · exact parsePort_write read url _
  · exact parsePath_write read url _

theorem parseName_write (str : List UInt8) :
    parseName str (read.write url) = (read.withName str).write url := by
  unfold parseName withName
  cases strchr 47 str with
  | some parts => exact parsePath_write { read with host := some parts.1 } url parts.2
  | none => rfl

theorem parseHost_write (str : List UInt8) :
    parseHost str (read.write url) =
      ((read.withHost str).1.write url, (read.withHost str).2) := by
  unfold parseHost withHost
  split
  · rename_i str
    cases strchr 93 str with
    | none => rfl
    | some parts =>
        exact congrArg (·, true)
          (parseBracketEnd_write { read with host := some parts.1 } url parts.2)
  · cases strchr 58 str with
    | none => exact congrArg (·, true) (parseName_write read url str)
    | some parts =>
        dsimp only
        by_cases slash : 47 ∉ parts.1
        · rw [if_pos slash, if_pos slash]
          exact congrArg (·, true)
            (parsePort_write { read with host := some parts.1 } url parts.2)
        · rw [if_neg slash, if_neg slash]
          exact congrArg (·, true) (parseName_write read url str)

theorem parseUser_write (str : List UInt8) :
    parseUser str (read.write url) =
      ((read.withUser str).1.write url, (read.withUser str).2) := by
  unfold parseUser withUser
  cases strchr 64 str with
  | none => exact parseHost_write read url str
  | some _ =>
      cases strchr 58 str with
      | none => rfl
      | some parts =>
          dsimp only
          cases strchr 64 parts.2 with
          | none => rfl
          | some more =>
              exact parseHost_write
                { read with username := some parts.1, password := some more.1 } url more.2

end Components

/-- What is read of a string does not depend on the url over which it is written. -/
theorem parseUrl_eq {str : List UInt8} (nonempty : str ≠ []) (url : Url) :
    parseUrl str url =
      ((components str).1.write { url with mHref := str }, (components str).2) := by
  rw [parseUrl, if_neg nonempty, components]
  split
  · rename_i schema behind _
    exact Components.parseUser_write { Components.empty with schema := some schema }
      { url with mHref := str } behind
  · rfl

/-! ## The table of queries -/

namespace Components

theorem foldl_put
    (queries : List (List UInt8 × List UInt8)) (old : List UInt8 → Option (List UInt8)) :
    (queries.foldl (KeyedHash.put Prod.fst) fun key => (old key).map (key, ·)) =
      fun key => (queries.foldl overwrite old key).map (key, ·) := by
  induction queries generalizing old with
  | nil => rfl
  | cons query queries inductionHypothesis =>
      rw [List.foldl_cons, List.foldl_cons, ← inductionHypothesis]
      congr 1
      funext key
      rw [KeyedHash.put, overwrite]
      by_cases same : key = query.1
      · rw [same, Function.update_self, if_pos rfl]
        rfl
      · rw [Function.update_of_ne same, if_neg same]

/-- Whatever the hashes are, the hash table of an url finds the queries that were added, unless
it is refused its memory. -/
theorem table_of_queries
    (hashOf : List UInt8 → Nat) {entrySize : Nat}
    {mQueries : Table (List UInt8 × List UInt8)}
    (isNew : KeyedHash.new entrySize 10 = .ok mQueries)
    (queries : List (List UInt8 × List UInt8)) :
    (∃ failure, KeyedHash.addAll Prod.fst hashOf mQueries queries =
        .error failure ∧ failure.IsRefusal) ∨
    ∃ result, KeyedHash.addAll Prod.fst hashOf mQueries queries = .ok result ∧
      ∀ key, KeyedHash.get Prod.fst hashOf result key =
        .ok ((queries.foldl overwrite fresh.mQueries key).map (key, ·)) := by
  refine (KeyedHash.addAll_new Prod.fst hashOf isNew queries).imp_right ?_
  rintro ⟨result, adds, mirrors⟩
  have nothing : (fun _ => none : List UInt8 → Option (List UInt8 × List UInt8)) =
      fun key => (fresh.mQueries key).map (key, ·) := rfl
  rw [nothing, foldl_put] at mirrors
  exact ⟨result, adds, KeyedHash.get_eq mirrors⟩

end Components

/-! ## What remains of the old url -/

namespace Components

theorem foldl_overwrite_of_notMem
    {queries : List (List UInt8 × List UInt8)} {key : List UInt8}
    (absent : key ∉ queries.map Prod.fst) (old : List UInt8 → Option (List UInt8)) :
    queries.foldl overwrite old key = old key := by
  induction queries generalizing old with
  | nil => rfl
  | cons query queries inductionHypothesis =>
      rw [List.map_cons, List.mem_cons, not_or] at absent
      rw [List.foldl_cons, inductionHypothesis absent.2, overwrite, if_neg absent.1]

theorem foldl_overwrite_of_mem
    {queries : List (List UInt8 × List UInt8)} {key : List UInt8}
    (present : key ∈ queries.map Prod.fst) (old other : List UInt8 → Option (List UInt8)) :
    queries.foldl overwrite old key = queries.foldl overwrite other key := by
  induction queries generalizing old other with
  | nil => cases present
  | cons query queries inductionHypothesis =>
      rw [List.foldl_cons, List.foldl_cons]
      by_cases later : key ∈ queries.map Prod.fst
      · exact inductionHypothesis later _ _
      · have here : key = query.1 := by
          rw [List.map_cons, List.mem_cons] at present
          exact present.resolve_right later
        rw [foldl_overwrite_of_notMem later, foldl_overwrite_of_notMem later, overwrite,
          overwrite, if_pos here, if_pos here]

theorem getD_eq_iff (component : Option (List UInt8)) (old : List UInt8) :
    component.getD old = component.getD [] ↔ (component = none → old = []) := by
  cases component with
  | none => simp
  | some value => simp

/-- Nothing of an old url survives if and only if it has no components but those that are
written over it. -/
theorem write_eq_write_fresh_iff (read : Components) (url : Url) (href : List UInt8) :
    read.write { url with mHref := href } = read.write { fresh with mHref := href } ↔
      read.Covers url := by
  have queries : read.queries.foldl overwrite url.mQueries =
      read.queries.foldl overwrite (fun _ => none) ↔
        ∀ key, url.mQueries key ≠ none → key ∈ read.queries.map Prod.fst := by
    constructor
    · intro same key isSome
      by_contra absent
      have here := congrFun same key
      rw [foldl_overwrite_of_notMem absent, foldl_overwrite_of_notMem absent] at here
      exact isSome here
    · intro covered
      funext key
      by_cases present : key ∈ read.queries.map Prod.fst
      · exact foldl_overwrite_of_mem present _ _
      · have isNone : url.mQueries key = none := by
          by_contra isSome
          exact present (covered key isSome)
        rw [foldl_overwrite_of_notMem present, foldl_overwrite_of_notMem present, isNone]
  constructor
  · intro same
    rw [Url.ext_iff] at same
    obtain ⟨-, schema, username, password, host, port, path, fragment, others⟩ := same
    exact {
      schema := (getD_eq_iff _ _).mp schema
      username := (getD_eq_iff _ _).mp username
      password := (getD_eq_iff _ _).mp password
      host := (getD_eq_iff _ _).mp host
      port := (getD_eq_iff _ _).mp port
      path := (getD_eq_iff _ _).mp path
      fragment := (getD_eq_iff _ _).mp fragment
      queries := queries.mp others }
  · intro covers
    rw [Url.ext_iff]
    exact ⟨rfl, (getD_eq_iff _ _).mpr covers.schema, (getD_eq_iff _ _).mpr covers.username,
      (getD_eq_iff _ _).mpr covers.password, (getD_eq_iff _ _).mpr covers.host,
      (getD_eq_iff _ _).mpr covers.port, (getD_eq_iff _ _).mpr covers.path,
      (getD_eq_iff _ _).mpr covers.fragment, queries.mpr covers.queries⟩

/-! ## The host -/

@[simp] theorem host_withPath (str : List UInt8) (read : Components) :
    (withPath str read).host = read.host := by
  unfold withPath
  split
  · rfl
  · split
    · split
      · rfl
      · rfl
    · split
      · rfl
      · rfl

@[simp] theorem host_withPort (str : List UInt8) (read : Components) :
    (withPort str read).host = read.host := by
  unfold withPort
  split
  · rw [host_withPath]
  · rfl

@[simp] theorem host_withBracketEnd (str : List UInt8) (read : Components) :
    (withBracketEnd str read).host = read.host := by
  unfold withBracketEnd
  split
  · exact host_withPort _ _
  · exact host_withPath _ _

theorem exists_host_withName (str : List UInt8) (read : Components) :
    ∃ host, (withName str read).host = some host ∧ host <:+: str := by
  unfold withName
  split
  · rename_i host behind found
    obtain ⟨rfl, -⟩ := strchr_eq_some_iff.mp found
    exact ⟨host, host_withPath _ _, (List.prefix_append _ _).isInfix⟩
  · exact ⟨str, rfl, List.infix_refl str⟩

/-- A complete host stands in the string from which it is read. -/
theorem exists_host_withHost
    {str : List UInt8} {read : Components} (complete : (withHost str read).2 = true) :
    ∃ host, (withHost str read).1.host = some host ∧ host <:+: str := by
  unfold withHost at complete ⊢
  split
  · rename_i str
    cases found : strchr 93 str with
    | none =>
        simp [found] at complete
    | some parts =>
        obtain ⟨rfl, -⟩ := strchr_eq_some_iff.mp found
        refine ⟨parts.1, host_withBracketEnd _ _, ?_⟩
        exact (List.prefix_append _ _).isInfix.trans (List.suffix_cons _ _).isInfix
  · cases found : strchr 58 str with
    | none => exact exists_host_withName str read
    | some parts =>
        dsimp only
        split
        · obtain ⟨rfl, -⟩ := strchr_eq_some_iff.mp found
          exact ⟨parts.1, host_withPort _ _, (List.prefix_append _ _).isInfix⟩
        · exact exists_host_withName str read

theorem exists_host_withUser
    {str : List UInt8} {read : Components} (complete : (withUser str read).2 = true) :
    ∃ host, (withUser str read).1.host = some host ∧ host <:+: str := by
  unfold withUser at complete ⊢
  cases hasUser : strchr 64 str with
  | none =>
      rw [hasUser] at complete
      exact exists_host_withHost complete
  | some _ =>
      rw [hasUser] at complete
      dsimp only at complete ⊢
      cases first : strchr 58 str with
      | none =>
          rw [first] at complete
          cases complete
      | some parts =>
          rw [first] at complete
          dsimp only at complete ⊢
          cases second : strchr 64 parts.2 with
          | none =>
              rw [second] at complete
              cases complete
          | some more =>
              rw [second] at complete
              obtain ⟨host, isRead, inside⟩ := exists_host_withHost complete
              refine ⟨host, isRead, inside.trans ?_⟩
              have whole := (strchr_eq_some_iff.mp first).1
              rw [(strchr_eq_some_iff.mp second).1] at whole
              exact ⟨parts.1 ++ 58 :: (more.1 ++ [64]), [], by rw [whole]; simp⟩

end Components

/-- The host of a string that is accepted stands in it. -/
theorem exists_host_components {str : List UInt8} (accepted : (components str).2 = true) :
    ∃ host, (components str).1.host = some host ∧ host <:+: str := by
  unfold components at accepted ⊢
  split
  · rename_i schema behind found
    rw [found] at accepted
    obtain ⟨host, isRead, inside⟩ := Components.exists_host_withUser accepted
    refine ⟨host, isRead, inside.trans ?_⟩
    exact ⟨schema ++ [58, 47, 47], [], by rw [(strchr_eq_some_iff.mp found).1]; simp⟩
  · rename_i noSchema
    split at accepted
    · rename_i found
      exact absurd found (noSchema _ _)
    · cases accepted

end Url
end Skplat
