import Companions.Backend.Endpoint
import Companions.Proofs.UrlHost
import Companions.Proofs.UrlPath

/-! Where the requests of a backend go. Their addresses are put together as text and read again, so
that the end of the base address decides how the place of a request is read. -/
namespace Companions

namespace Url

/-- The pairs that an address asks with. -/
def pairs (u : Url) : List (String × String) :=
  (u.query.map fun q => readForm q.toList).getD []

/-- The path without the slashes at its end. -/
def root (u : Url) : String := String.ofList (u.path.text.toList.rdropWhile fun c => c = '/')

theorem addPairs_eq (pairs : List (String × String)) (u : Url) :
    ∃ q, u.addPairs pairs = { u with query := q } := by
  unfold addPairs
  split
  · exact ⟨u.query, rfl⟩
  · simp only
    split <;> exact ⟨_, rfl⟩

theorem pairs_addPairs {u : Url} (h : u.query = none) (pairs : List (String × String)) :
    (u.addPairs pairs).pairs = pairs := by
  cases pairs with
  | nil => simp [addPairs, Url.pairs, h]
  | cons p ps => simp [addPairs, Url.pairs, h, readForm_formText]

/-- The address with neither a query nor a fragment. -/
def plain (scheme : String) (a : Authority) (path : List Char) : Url :=
  { scheme, authority := some a, path := readPath true path, query := none, fragment := none }

/-- What can follow a base after a slash: it is read as it stands, and stays below. -/
structure Addable (xs : List Char) : Prop where
  visible : ∀ c ∈ xs, isOuterBlank c = false
  unmarked : '?' ∉ xs ∧ '#' ∉ xs ∧ '\\' ∉ xs
  segments : ∀ s ∈ splitSlashes true xs, IsPlain s

theorem addable_nil : Addable [] := ⟨by simp, by simp, by decide⟩

end Url

namespace Request

/-- The places of all requests. -/
def paths : List String :=
  ["/quick-connect/characters", "/quick-connect/search", "/favorites/toggle", "/favorites/reorder",
    "/access-history"]

theorem path_mem_paths (r : Request) : r.path ∈ paths := by
  cases r <;> simp [path, paths]

/-- Every request has a place that can follow a base. -/
theorem addable_path (r : Request) : ∃ xs, r.path.toList = '/' :: xs ∧ Url.Addable xs := by
  have hall : ∀ p ∈ paths,
      p.toList = '/' :: p.toList.tail ∧ (p.toList.tail.any Url.isOuterBlank) = false ∧
        ('?' ∉ p.toList.tail ∧ '#' ∉ p.toList.tail ∧ '\\' ∉ p.toList.tail) ∧
        ∀ s ∈ Url.splitSlashes true p.toList.tail, Url.IsPlain s := by
    decide
  obtain ⟨hslash, hvisible, hunmarked, hsegments⟩ := hall r.path r.path_mem_paths
  refine ⟨_, hslash, fun c hc => ?_, hunmarked, hsegments⟩
  rw [List.any_eq_false] at hvisible
  simpa using hvisible c hc

end Request

namespace Backend

/-- The address that the backend keeps of its base. -/
def trimmed (base : String) : String :=
  String.ofList (base.toList.rdropWhile fun c => c = '/')

/-- The request goes to its own place below the base, asking for no more and no less than it
should. -/
structure Rooted (b : Backend) (u : Url) (r : Request) (v : Url) : Prop where
  found : b.endpoint r = .ok v
  scheme : v.scheme = u.scheme
  authority : v.authority = u.authority
  path : v.path.text = u.root ++ r.path
  query : v.pairs = r.pairs
  fragment : v.fragment = none
  sent : ∀ token s signature, Signing.sign (some token) s = some signature →
    ∃ m, b.compose (some token) s r = .ok m ∧ m.url = v ∧ m.method = r.method

/-- The end of a base under which the requests stand: no query and no fragment, no blank that the
base is read without and its requests with, and no doubled slash before what is added. -/
structure Neat (base : String) : Prop where
  unmarked : '?' ∉ base.toList ∧ '#' ∉ base.toList
  unblank : ∀ c ∈ base.toList.rtakeWhile Url.isOuterBlank, Url.isSkipped c = true
  single : ∀ u, Url.parse (trimmed base ++ "/") = .ok u → ¬['/', '/'] <:+ u.path.text.toList

variable {base : String} {timeout : Nanos} {b : Backend} {u v : Url} {r : Request}
  {host path xs : List Char}

theorem base_of_ofBase (h : ofBase base timeout = .ok b) : b.base = trimmed base := by
  unfold ofBase at h
  split at h
  · cases h
  · cases h
    rfl

theorem toList_base (base : String) :
    ∃ n, base.toList = (trimmed base).toList ++ List.replicate n '/' := by
  refine ⟨(base.toList.rtakeWhile fun c => c = '/').length, ?_⟩
  have hslashes : base.toList.rtakeWhile (fun c => c = '/') =
      List.replicate (base.toList.rtakeWhile fun c => c = '/').length '/' :=
    List.eq_replicate_iff.mpr ⟨rfl, fun c hc => by simpa using List.mem_rtakeWhile_imp hc⟩
  rw [← hslashes, trimmed, String.toList_ofList, List.rdropWhile_append_rtakeWhile]

/-- A query or a fragment of the base begins in what follows its host. -/
theorem mem_path_iff {scheme : String}
    (hd : Url.Divided scheme (Url.kept (trimmed base).toList) host path) {c : Char}
    (hc : c = '?' ∨ c = '#') : c ∈ path ↔ c ∈ base.toList := by
  have hblank : Url.isOuterBlank c = false := by rcases hc with rfl | rfl <;> decide
  have hslash : c ≠ '/' := by rcases hc with rfl | rfl <;> decide
  obtain ⟨n, hn⟩ := toList_base base
  rw [hd.mem_tail_iff hc, Url.mem_kept_iff hblank, hn, List.mem_append]
  exact ⟨.inl, fun h => h.resolve_right fun hmem => hslash (List.eq_of_mem_replicate hmem)⟩

theorem unmarked_iff {scheme : String}
    (hd : Url.Divided scheme (Url.kept (trimmed base).toList) host path) :
    ('?' ∉ path ∧ '#' ∉ path) ↔ '?' ∉ base.toList ∧ '#' ∉ base.toList := by
  rw [mem_path_iff hd (.inl rfl), mem_path_iff hd (.inr rfl)]

section

variable (hu : Url.parse base = .ok u) (hs : u.scheme = "http" ∨ u.scheme = "https")
include hu hs

theorem colon_mem_trimmed : ':' ∈ (trimmed base).toList := by
  obtain ⟨host, tail, hd⟩ := Url.divided_of_parse hs hu
  have hmem := (Url.mem_cleaned_iff (by decide)).mp hd.colon_mem
  obtain ⟨n, hn⟩ := toList_base base
  rw [hn, List.mem_append] at hmem
  refine hmem.resolve_right fun h => ?_
  exact absurd (List.eq_of_mem_replicate h) (by decide)

theorem kept_trimmed_append (hx : ∀ c ∈ xs, Url.isSkipped c = false) :
    Url.kept ((trimmed base).toList ++ xs) = Url.kept (trimmed base).toList ++ xs :=
  Url.kept_append ⟨':', colon_mem_trimmed hu hs, by decide⟩ hx

/-- How the text of a request's address is divided. -/
theorem parse_trimmed_append {scheme place : String} (hscheme : scheme = "http" ∨ scheme = "https")
    (hd : Url.Divided scheme (Url.kept (trimmed base).toList) host path)
    (hplace : place.toList = '/' :: xs) (hx : Url.Addable xs) :
    Url.parse (trimmed base ++ place) = (Url.readAuthority scheme host).map fun a =>
      Url.withTail scheme (some a) (Url.readPath true) (path ++ '/' :: xs) := by
  have hvisible : ∀ c ∈ '/' :: xs, Url.isOuterBlank c = false := by
    intro c hc
    rcases List.mem_cons.mp hc with rfl | hc
    · decide
    · exact hx.visible c hc
  have hunskipped : ∀ c ∈ '/' :: xs, Url.isSkipped c = false :=
    fun c hc => Url.isSkipped_eq_false (hvisible c hc)
  have happ : (trimmed base ++ place).toList = (trimmed base).toList ++ '/' :: xs := by
    rw [String.toList_append, hplace]
  have hlast := List.getLast?_eq_some_getLast (List.cons_ne_nil '/' xs)
  have hclean : Url.cleaned (trimmed base ++ place) =
      Url.kept (trimmed base).toList ++ '/' :: xs := by
    have hend : (trimmed base ++ place).toList.getLast? =
        some (('/' :: xs).getLast (List.cons_ne_nil '/' xs)) := by
      rw [happ, List.getLast?_append, hlast]
      rfl
    rw [Url.cleaned_of_ends hend (hvisible _ (List.getLast_mem _)), happ,
      kept_trimmed_append hu hs hunskipped]
  apply Url.parse_eq_of_divided hscheme
  rw [hclean]
  exact hd.append ('/' :: xs) (.inr fun c hc => by cases hc; rfl)

/-- Without blanks at its end, a base is read as its requests are, up to the slashes at its end. -/
theorem divided_of_unblank
    (hblank : ∀ c ∈ base.toList.rtakeWhile Url.isOuterBlank, Url.isSkipped c = true) :
    ∃ host path n a, Url.Divided u.scheme (Url.kept (trimmed base).toList) host path ∧
      Url.readAuthority u.scheme host = .ok a ∧
      u = Url.withTail u.scheme (some a) (Url.readPath true) (path ++ List.replicate n '/') := by
  obtain ⟨n, hn⟩ := toList_base base
  have hcolon : ':' ∈ base.toList := by
    rw [hn]
    exact List.mem_append_left _ (colon_mem_trimmed hu hs)
  have hend : Url.blanksAtEnd base.toList = [] := by
    rw [Url.blanksAtEnd_eq ⟨':', hcolon, by decide⟩, List.filter_eq_nil_iff]
    intro c hc
    simp [hblank c hc]
  have hskip : ∀ c ∈ List.replicate n '/', Url.isSkipped c = false := by
    intro c hc
    rw [List.eq_of_mem_replicate hc]
    decide
  have hclean : Url.cleaned base = Url.kept (trimmed base).toList ++ List.replicate n '/' := by
    rw [← List.append_nil (Url.cleaned base), ← hend, ← Url.kept_eq_cleaned_append, hn,
      kept_trimmed_append hu hs hskip]
  obtain ⟨host, tail, hd⟩ := Url.divided_of_parse hs hu
  obtain ⟨a, ha, hua⟩ := Url.of_parse_divided hs hu hd
  rw [hclean] at hd
  have hends : ∀ c ∈ List.replicate n '/', Url.endsAuthority true c = true := by
    intro c hc
    rw [List.eq_of_mem_replicate hc]
    rfl
  obtain ⟨path, rfl, hpath⟩ := hd.of_append hends
  exact ⟨host, path, n, a, hpath, ha, hua⟩

/-- A base that is read without blanks at its end, which stand inside the addresses of its
requests. -/
theorem divided_of_blank
    (hblank : ¬∀ c ∈ base.toList.rtakeWhile Url.isOuterBlank, Url.isSkipped c = true) :
    ∃ host tail a blanks, blanks ≠ [] ∧ (∀ c ∈ blanks, Url.isOuterBlank c = true) ∧
      Url.Divided u.scheme (Url.cleaned base) host tail ∧
      Url.kept (trimmed base).toList = Url.cleaned base ++ blanks ∧
      u = Url.withTail u.scheme (some a) (Url.readPath true) tail := by
  obtain ⟨n, hn⟩ := toList_base base
  have hbase : base.toList = (trimmed base).toList := by
    cases n with
    | zero => simpa using hn
    | succ n =>
      refine (hblank fun c hc => ?_).elim
      rw [hn, List.replicate_succ', ← List.append_assoc,
        List.rtakeWhile_concat_neg _ _ _ (by decide)] at hc
      cases hc
  obtain ⟨host, tail, hd⟩ := Url.divided_of_parse hs hu
  obtain ⟨a, -, hua⟩ := Url.of_parse_divided hs hu hd
  refine ⟨host, tail, a, Url.blanksAtEnd base.toList, ?_,
    fun c hc => Url.isOuterBlank_of_mem_blanksAtEnd hc, hd, ?_, hua⟩
  · intro hnil
    have hcolon : ':' ∈ base.toList := by
      rw [hbase]
      exact colon_mem_trimmed hu hs
    rw [Url.blanksAtEnd_eq ⟨':', hcolon, by decide⟩, List.filter_eq_nil_iff] at hnil
    exact hblank fun c hc => by simpa using hnil c hc
  · rw [← hbase, Url.kept_eq_cleaned_append]

end

theorem compose_of_endpoint (hv : b.endpoint r = .ok v)
    (hs : v.scheme = "http" ∨ v.scheme = "https") (hhost : v.hasHost = true) (token : String)
    (s : Session) (signature : List (String × String))
    (hsign : Signing.sign (some token) s = some signature) :
    ∃ m, b.compose (some token) s r = .ok m ∧ m.url = v ∧ m.method = r.method := by
  have hscheme : ¬(v.scheme ≠ "http" ∧ v.scheme ≠ "https") := by
    rintro ⟨hhttp, hhttps⟩
    exact hs.elim hhttp hhttps
  refine ⟨{ method := r.method, url := v, headers := signature ++ plainHeaders r.body?,
            body := r.body? }, ?_, rfl, rfl⟩
  simp only [compose, hv, hhost, hsign, if_neg hscheme, bind, Except.bind, pure, Except.pure]
  rfl

/-- Slashes at the end of a text are cut off until another character comes. -/
theorem doubled_iff (cs : List Char) :
    ['/', '/'] <:+ cs ++ ['/'] ↔ cs.rdropWhile (fun c => c = '/') ≠ cs := by
  rcases List.eq_nil_or_concat cs with rfl | ⟨cs, c, rfl⟩
  · decide
  · have hlen := (List.rdropWhile_prefix (fun c => decide (c = '/')) (l := cs)).length_le
    have hne : cs.rdropWhile (fun c => c = '/') ≠ cs ++ [c] := by
      intro h
      rw [h, List.length_append, List.length_singleton] at hlen
      omega
    rw [List.concat_eq_append, ← List.reverse_prefix, List.rdropWhile_concat]
    by_cases hc : c = '/'
    · subst hc
      simpa using hne
    · have hc' : '/' ≠ c := fun h => hc h.symm
      simp [hc, hc']

/-- Both the base and its requests name the places above the requests. -/
theorem toList_root {n : Nat} (hp : ∀ c ∈ path.head?, Url.isSlash true c = true)
    (hpath : u.path = Url.readPath true (path ++ List.replicate n '/')) :
    u.root.toList = (Url.written (Url.above path).reverse).rdropWhile fun c => c = '/' := by
  obtain ⟨m, hm⟩ := Url.text_readPath_slashes hp n
  have hslashes : ∀ c ∈ List.replicate m '/', decide (c = '/') = true := fun c hc => by
    simp [List.eq_of_mem_replicate hc]
  rw [Url.root, hpath, hm, String.toList_ofList, List.rdropWhile, List.reverse_append,
    List.reverse_replicate, List.dropWhile_append_of_pos hslashes]
  rfl

theorem not_mem_append_slashes {c : Char} (hc : c ∉ path) (hne : c ≠ '/') (n : Nat) :
    c ∉ path ++ List.replicate n '/' := by
  rw [List.mem_append]
  rintro (h | h)
  · exact hc h
  · exact hne (List.eq_of_mem_replicate h)

section

variable {place : String} {n : Nat} {a : Url.Authority}
  (hu : Url.parse base = .ok u) (hs : u.scheme = "http" ∨ u.scheme = "https")
  (hd : Url.Divided u.scheme (Url.kept (trimmed base).toList) host path) (hq : '?' ∉ path)
  (hf : '#' ∉ path) (ha : Url.readAuthority u.scheme host = .ok a)
include hq hf

theorem eq_plain (hua : u = Url.withTail u.scheme (some a) (Url.readPath true)
    (path ++ List.replicate n '/')) : u = Url.plain u.scheme a (path ++ List.replicate n '/') :=
  hua.trans (Url.withTail_of_plain (not_mem_append_slashes hq (by decide) n)
    (not_mem_append_slashes hf (by decide) n) (some a) (Url.readPath true))

include hu hs hd ha

theorem parse_eq_plain (hplace : place.toList = '/' :: xs) (hx : Url.Addable xs) :
    Url.parse (trimmed base ++ place) = .ok (Url.plain u.scheme a (path ++ '/' :: xs)) := by
  obtain ⟨hxq, hxf, -⟩ := hx.unmarked
  rw [parse_trimmed_append hu hs hs hd hplace hx, ha]
  exact congrArg Except.ok (Url.withTail_of_plain (by simp [hq, hxq]) (by simp [hf, hxf]) _ _)

omit hu hs ha in
theorem text_plain_append (hx : Url.Addable xs) :
    (Url.plain u.scheme a (path ++ '/' :: xs)).path.text.toList =
      Url.written (Url.above path).reverse ++ '/' :: xs :=
  Url.text_readPath_append (hd.head_isSlash hq hf) hx.segments hx.unmarked.2.2

/-- The root of the base is what stands above its requests, unless that ends in a slash. -/
theorem single_iff (hua : u = Url.plain u.scheme a (path ++ List.replicate n '/')) :
    (∀ v, Url.parse (trimmed base ++ "/") = .ok v → ¬['/', '/'] <:+ v.path.text.toList) ↔
      u.root.toList = Url.written (Url.above path).reverse := by
  have hslash : Url.parse (trimmed base ++ "/") = .ok (Url.plain u.scheme a (path ++ ['/'])) :=
    parse_eq_plain hu hs hd hq hf ha rfl Url.addable_nil
  rw [toList_root (hd.head_isSlash hq hf) (congrArg Url.path hua), hslash]
  simp only [Except.ok.injEq, forall_eq', text_plain_append hd hq hf Url.addable_nil, doubled_iff,
    not_not]

end

/-- The requests of a neat base are rooted. -/
theorem rooted_of_neat (hb : ofBase base timeout = .ok b) (hu : Url.parse base = .ok u)
    (hs : u.scheme = "http" ∨ u.scheme = "https") (h : Neat base) (r : Request) :
    ∃ v, b.Rooted u r v := by
  obtain ⟨host, path, n, a, hd, ha, hua⟩ := divided_of_unblank hu hs h.unblank
  obtain ⟨hq, hf⟩ := (unmarked_iff hd).mpr h.unmarked
  obtain ⟨xs, hxs, hx⟩ := r.addable_path
  have hua := eq_plain hq hf hua
  have hroot := (single_iff hu hs hd hq hf ha hua).mp h.single
  have hspecial : Url.isSpecial u.scheme = true := by rcases hs with hs | hs <;> rw [hs] <;> rfl
  obtain ⟨q, hv⟩ := Url.addPairs_eq r.pairs (Url.plain u.scheme a (path ++ '/' :: xs))
  have hfound : b.endpoint r =
      .ok ((Url.plain u.scheme a (path ++ '/' :: xs)).addPairs r.pairs) := by
    rw [endpoint, base_of_ofBase hb, parse_eq_plain hu hs hd hq hf ha hxs hx]
  have hquery : ((Url.plain u.scheme a (path ++ '/' :: xs)).addPairs r.pairs).pairs = r.pairs :=
    Url.pairs_addPairs rfl r.pairs
  have hpath : (Url.plain u.scheme a (path ++ '/' :: xs)).path.text = u.root ++ r.path := by
    apply String.toList_injective
    rw [text_plain_append hd hq hf hx, String.toList_append, hroot, hxs]
  rw [hv] at hfound hquery
  exact ⟨_, hfound, rfl, (congrArg Url.authority hua).symm, hpath, hquery, rfl,
    compose_of_endpoint hfound hs (Url.hasHost_of_readAuthority hspecial ha rfl)⟩

/-- Where a rooted request is read from. -/
theorem path_of_rooted (hb : ofBase base timeout = .ok b) (hu : Url.parse base = .ok u)
    (hs : u.scheme = "http" ∨ u.scheme = "https")
    (hd : Url.Divided u.scheme (Url.kept (trimmed base).toList) host path)
    (h : b.Rooted u r v) : ∃ a xs, r.path.toList = '/' :: xs ∧ Url.Addable xs ∧
      Url.readAuthority u.scheme host = .ok a ∧
      v.path = Url.readPath true (Url.divide (path ++ '/' :: xs)).1 := by
  obtain ⟨xs, hxs, hx⟩ := r.addable_path
  have hfound := h.found
  rw [endpoint, base_of_ofBase hb, parse_trimmed_append hu hs hs hd hxs hx] at hfound
  cases ha : Url.readAuthority u.scheme host with
  | error e =>
    rw [ha] at hfound
    cases hfound
  | ok a =>
    rw [ha] at hfound
    obtain ⟨q, hv⟩ := Url.addPairs_eq r.pairs
      (Url.withTail u.scheme (some a) (Url.readPath true) (path ++ '/' :: xs))
    refine ⟨a, xs, hxs, hx, rfl, ?_⟩
    rw [← Except.ok.inj hfound, hv]
    rfl

/-- The root of the base stands above a rooted request. -/
theorem root_of_rooted (hb : ofBase base timeout = .ok b) (hu : Url.parse base = .ok u)
    (hs : u.scheme = "http" ∨ u.scheme = "https")
    (hd : Url.Divided u.scheme (Url.kept (trimmed base).toList) host path) (hq : '?' ∉ path)
    (hf : '#' ∉ path) (h : b.Rooted u r v) :
    u.root.toList = Url.written (Url.above path).reverse := by
  obtain ⟨a, xs, hxs, hx, -, hpath⟩ := path_of_rooted hb hu hs hd h
  obtain ⟨hxq, hxf, hback⟩ := hx.unmarked
  rw [Url.divide_of_plain (by simp [hq, hxq]) (by simp [hf, hxf])] at hpath
  have htext := congrArg String.toList h.path
  rw [hpath, Url.text_readPath_append (hd.head_isSlash hq hf) hx.segments hback,
    String.toList_append, hxs] at htext
  exact (List.append_cancel_right htext).symm

section

variable (hb : ofBase base timeout = .ok b) (hu : Url.parse base = .ok u)
  (hs : u.scheme = "http" ∨ u.scheme = "https") (h : ∀ r, ∃ v, b.Rooted u r v)
include hb hu hs h

/-- Behind a query or a fragment, two requests would go to the same place. -/
theorem unmarked_of_rooted
    (hd : Url.Divided u.scheme (Url.kept (trimmed base).toList) host path) :
    '?' ∉ path ∧ '#' ∉ path := by
  by_contra hmark
  rw [← not_or, not_not] at hmark
  have hgoes (r : Request) :
      u.root ++ r.path = (Url.readPath true (Url.divide path).1).text := by
    obtain ⟨v, hv⟩ := h r
    obtain ⟨a, xs, -, -, -, hpath⟩ := path_of_rooted hb hu hs hd hv
    rw [← hv.path, hpath, Url.path_divide_append hmark]
  have hsame := (hgoes (.toggle 0)).trans (hgoes (.reorder [])).symm
  rw [String.append_right_inj] at hsame
  exact absurd hsame (by decide)

/-- A blank that the base is read without either spoils the host or lengthens the path. -/
theorem unblank_of_rooted :
    ∀ c ∈ base.toList.rtakeWhile Url.isOuterBlank, Url.isSkipped c = true := by
  by_contra hblank
  obtain ⟨host, tail, a, blanks, hne, hblanks, hd, hkept, hua⟩ := divided_of_blank hu hs hblank
  obtain ⟨v, hv⟩ := h (.toggle 0)
  have hspecial : Url.isSpecial u.scheme = true := by rcases hs with hs | hs <;> rw [hs] <;> rfl
  cases tail with
  | nil =>
    have hhost := hd.append_host fun c hc => Url.endsAuthority_of_isOuterBlank (hblanks c hc)
    rw [← hkept] at hhost
    obtain ⟨a', xs, -, -, ha, -⟩ := path_of_rooted hb hu hs hhost hv
    obtain ⟨before, c, rfl⟩ := (List.eq_nil_or_concat blanks).resolve_left hne
    rw [List.concat_eq_append] at ha hblanks
    rw [← List.append_assoc] at ha
    exact Url.readAuthority_of_blank hspecial (hblanks c (by simp)) _ a' ha
  | cons c rest =>
    have hpath := hd.append blanks (.inl (List.cons_ne_nil c rest))
    rw [← hkept] at hpath
    obtain ⟨hq, hf⟩ := unmarked_of_rooted hb hu hs h hpath
    have hroot := root_of_rooted hb hu hs hpath hq hf hv
    have hlonger := Url.length_text_lt_of_blanks (hpath.head_isSlash hq hf c rfl) rest hne hblanks
    have hupath : u.path = Url.readPath true (c :: rest) := by
      rw [hua, Url.withTail_of_plain (fun hmem => hq (List.mem_append_left _ hmem))
        (fun hmem => hf (List.mem_append_left _ hmem))]
    have hshorter : u.root.toList.length ≤ u.path.text.toList.length := by
      rw [Url.root, String.toList_ofList]
      exact (List.rdropWhile_prefix _ _).length_le
    rw [hroot, hupath] at hshorter
    omega

/-- Where the requests are rooted, the base is neat. -/
theorem neat_of_rooted : Neat base := by
  have hblank := unblank_of_rooted hb hu hs h
  obtain ⟨host, path, n, a, hd, ha, hua⟩ := divided_of_unblank hu hs hblank
  have hmarks := unmarked_of_rooted hb hu hs h hd
  have ⟨hq, hf⟩ := hmarks
  have hua := eq_plain hq hf hua
  obtain ⟨v, hv⟩ := h (.toggle 0)
  have hroot := root_of_rooted hb hu hs hd hq hf hv
  exact ⟨(unmarked_iff hd).mp hmarks, hblank, (single_iff hu hs hd hq hf ha hua).mpr hroot⟩

end

end Backend
end Companions
