import Provision.Proofs.PercentCoding
import Provision.Repository.Service
import Mathlib.Data.List.Basic

/-!
# Where repositories are looked for

The path of a URL of the web has segments (`segments_of_parse`), and what is not a dot segment is
added to them as one segment more (`push_name`). So a repository is looked for below the base of its
service (`repositoryUrl_below`), if its names hold no tabs and line breaks: these are dropped after
the names were checked, and what is left may be a dot segment (`repositoryUrl_leaves_nearby`).
-/

namespace Provision

namespace Url

/-! ## Paths that are read -/

theorem readAuthority_ok {scheme : String} {cs : List Char} {b : Url}
    (h : readAuthority scheme cs = .ok b) :
    b.scheme = scheme ∧ ∃ path, b.path = .segments path := by
  unfold readAuthority at h
  simp only [bind, Except.bind, throw, throwThe, MonadExceptOf.throw, pure, Except.pure] at h
  repeat' split at h
  all_goals first
    | cases h; done
    | cases h; exact ⟨rfl, _, rfl⟩

theorem readFile_scheme {cs : List Char} {b : Url} (h : readFile cs = .ok b) :
    b.scheme = "file" := by
  unfold readFile at h
  simp only [bind, Except.bind, pure, Except.pure] at h
  repeat' split at h
  all_goals first
    | cases h; done
    | cases h; rfl

theorem readOther_scheme {scheme : String} {cs : List Char} {b : Url}
    (h : readOther scheme cs = .ok b) : b.scheme = scheme := by
  unfold readOther at h
  split at h
  · exact (readAuthority_ok h).1
  · cases h; rfl
  · cases h; rfl

/-- The path of a special scheme has segments. -/
theorem segments_of_parse {text : String} {b : Url} (h : parse text = .ok b)
    (hspecial : isSpecialScheme b.scheme = true) (hfile : b.scheme ≠ "file") :
    ∃ path, b.path = .segments path := by
  unfold parse at h
  cases hscheme : scheme? (trimmed text) with
  | none => simp [hscheme] at h
  | some pair =>
    obtain ⟨scheme, rest⟩ := pair
    rw [hscheme] at h
    dsimp only at h
    split_ifs at h with hf hs
    · exact absurd (readFile_scheme h) hfile
    · exact (readAuthority_ok h).2
    · rw [readOther_scheme h] at hspecial
      exact absurd hspecial hs

/-! ## Paths that are extended -/

/-- The path that segments are added to: without an empty last segment, and without an empty one
that is left alone. -/
def stem (path : List String) : List String :=
  if dropTrailingEmpty path = [""] then [] else dropTrailingEmpty path

/-- At most one slash is missing at the end of the text of a path, except that nothing is left of
two slashes alone. -/
def Path.EndsAfter (path : Path) (stem : String) : Prop :=
  path.text = stem ∨ path.text = stem ++ "/" ∨ path.text = "//" ∧ stem = ""

theorem text_segments_append (path path' : List String) :
    (Path.segments (path ++ path')).text =
      (Path.segments path).text ++ (Path.segments path').text := by
  unfold Path.text
  dsimp only
  rw [List.map_append, String.join_append]

theorem text_singleton (segment : String) : (Path.segments [segment]).text = "/" ++ segment := by
  show String.join ["/" ++ segment] = _
  rw [String.join_cons]
  exact String.append_empty

theorem text_repository (path : List String) (o n : String) :
    (Path.segments (path ++ ["repos", o, n])).text =
      (Path.segments path).text ++ "/repos/" ++ o ++ "/" ++ n := by
  have hrepos : "/" ++ "repos" ++ "/" = "/repos/" := by decide
  have hsplit : ["repos", o, n] = ["repos"] ++ ([o] ++ [n]) := rfl
  rw [hsplit, text_segments_append, text_segments_append, text_segments_append, text_singleton,
    text_singleton, text_singleton]
  calc (Path.segments path).text ++ ("/" ++ "repos" ++ ("/" ++ o ++ ("/" ++ n)))
      _ = (Path.segments path).text ++ ("/" ++ "repos" ++ "/") ++ o ++ "/" ++ n := by
          simp only [String.append_assoc]
      _ = (Path.segments path).text ++ "/repos/" ++ o ++ "/" ++ n := by rw [hrepos]

theorem dropTrailingEmpty_cases (path : List String) :
    dropTrailingEmpty path = path ∨ path = dropTrailingEmpty path ++ [""] := by
  unfold dropTrailingEmpty
  split
  · split_ifs with hlast
    · obtain ⟨front, hfront⟩ := List.getLast?_eq_some_iff.1 hlast
      rw [hfront, List.dropLast_concat]
      exact .inr rfl
    · exact .inl rfl
  · exact .inl rfl

theorem endsAfter_stem (path : List String) :
    (Path.segments path).EndsAfter (Path.segments (stem path)).text := by
  unfold stem
  rcases dropTrailingEmpty_cases path with heq | heq
  · rw [heq]
    split_ifs with h
    · rw [h]
      exact .inr (.inl rfl)
    · exact .inl rfl
  · have htext : (Path.segments path).text =
        (Path.segments (dropTrailingEmpty path)).text ++ "/" := by
      conv_lhs => rw [heq, text_segments_append]
      rfl
    split_ifs with h
    · rw [h] at htext
      exact .inr (.inr ⟨htext, rfl⟩)
    · exact .inr (.inl htext)

/-- A segment that is no dot segment is added at the end. -/
theorem push_of_segment {path : List String} {segment : String} (hsegment : segment ≠ ".")
    (hsegment' : segment ≠ "..") (hdot : isSingleDot (encodeSegment true segment) = false)
    (hdots : isDoubleDot (encodeSegment true segment) = false) :
    push true false path segment =
      (if path = [""] then [] else path) ++ [String.ofList (encodeSegment true segment)] := by
  unfold push addSegment
  rw [if_neg (by simp [hsegment, hsegment']), hdots, hdot]
  rfl

end Url

/-! ## Names as segments -/

namespace Repository

open Url

/-- Nothing in the text is passed over when it becomes a segment. -/
def IsKept (name : String) : Prop := ∀ c ∈ name.toList, isIgnored c = false

instance (name : String) : Decidable (IsKept name) :=
  List.decidableBAll (fun c => isIgnored c = false) name.toList

/-- The segment is the one of a name: it stays within its path and is decoded as the name. -/
structure SegmentOf (name segment : String) : Prop where
  nonempty : segment ≠ ""
  noSlash : '/' ∉ segment.toList
  noDot : isSingleDot segment.toList = false
  noDots : isDoubleDot segment.toList = false
  decoded : Text.decode? (percentDecode segment.toList) = some name

/-- The URL leads to a repository below a base. -/
structure Below (base : Url) (owner name : String) (u : Url) : Prop where
  scheme : u.scheme = base.scheme
  authority : u.authority = base.authority
  query : u.query = base.query
  fragment : u.fragment = base.fragment
  path : ∃ stem o n, base.path.EndsAfter stem ∧
    u.path.text = stem ++ "/repos/" ++ o ++ "/" ++ n ∧ SegmentOf owner o ∧ SegmentOf name n

section Names

variable {name : String} (hname : isSegment name = true) (hkept : IsKept name)

include hkept

theorem encodeSegment_of_isKept :
    encodeSegment true name = percentEncode inSpecialSegment name.toList := by
  unfold encodeSegment
  rw [if_pos rfl, List.filter_eq_self.2 fun c hc => by rw [hkept c hc]; rfl]

include hname

theorem segmentOf_encodeSegment : SegmentOf name (String.ofList (encodeSegment true name)) := by
  have hset : inSpecialSegment '%' = true := by decide
  have hne : name ≠ "" ∧ name ≠ "." ∧ name ≠ ".." := by
    refine ⟨?_, ?_, ?_⟩ <;> rintro rfl <;> revert hname <;> decide
  rw [encodeSegment_of_isKept hkept]
  refine ⟨fun h => ?_, ?_, ?_, ?_, ?_⟩
  · have hnil := eq_nil_of_percentEncode hset (String.ofList_injective h)
    exact hne.1 (String.toList_inj.1 hnil)
  all_goals rw [String.toList_ofList]
  · exact slash_notMem_percentEncode (by decide) _
  · refine Bool.eq_false_iff.2 fun h => hne.2.1 ?_
    exact String.toList_inj.1 (eq_of_isSingleDot hset h)
  · refine Bool.eq_false_iff.2 fun h => hne.2.2 ?_
    exact String.toList_inj.1 (eq_of_isDoubleDot hset h)
  · rw [decode?_percentEncode hset, String.ofList_toList]

/-- A name becomes the last segment. -/
theorem push_name (path : List String) : push true false path name =
    (if path = [""] then [] else path) ++ [String.ofList (encodeSegment true name)] := by
  have hsegment := segmentOf_encodeSegment hname hkept
  have hdot := hsegment.noDot
  have hdots := hsegment.noDots
  rw [String.toList_ofList] at hdot hdots
  refine push_of_segment ?_ ?_ hdot hdots <;> rintro rfl <;> revert hname <;> decide

theorem push_name_after {path : List String} {last : String} (hlast : last ≠ "") :
    push true false (path ++ [last]) name =
      path ++ [last] ++ [String.ofList (encodeSegment true name)] := by
  have hne : path ++ [last] ≠ [""] := fun h =>
    hlast (by simpa using congrArg List.getLast? h)
  rw [push_name hname hkept, if_neg hne]

end Names

/-! ## URLs of repositories -/

section Services

variable {service : Service} {base : Url} {owner name : String}

/-- The URL of a repository has two segments of its own after those of the base. -/
theorem repositoryUrl_eq {path : List String} (hbase : Url.parse service.baseUrl = .ok base)
    (hpath : base.path = .segments path) (hspecial : isSpecialScheme base.scheme = true)
    (hfile : base.scheme ≠ "file") (howner : isSegment owner = true)
    (hname : isSegment name = true) (howner' : IsKept owner) (hname' : IsKept name) :
    service.repositoryUrl owner name = .ok { base with
      path := .segments (stem path ++ ["repos", String.ofList (encodeSegment true owner),
        String.ofList (encodeSegment true name)]) } := by
  have hrepos : push true false (dropTrailingEmpty path) "repos" = stem path ++ ["repos"] :=
    push_name (by decide) (by decide) _
  have howner'' := (segmentOf_encodeSegment howner howner').nonempty
  have hextend : base.extend? ["repos", owner, name] = some { base with
      path := .segments (stem path ++ ["repos", String.ofList (encodeSegment true owner),
        String.ofList (encodeSegment true name)]) } := by
    unfold extend?
    rw [hpath]
    dsimp only [List.foldl]
    rw [hspecial, decide_eq_false hfile, hrepos, push_name_after howner howner' (by decide),
      push_name_after hname hname' howner'', List.append_assoc, List.append_assoc]
    rfl
  unfold Service.repositoryUrl checkSegment
  rw [if_pos howner, if_pos hname, hbase]
  simp only [bind, Except.bind, hextend]

theorem isSegment_iff {name : String} : isSegment name = true ↔ name ∉ ["", ".", ".."] := by
  simp [isSegment, and_assoc]

theorem invalid_of_isSegment (h : isSegment owner = false ∨ isSegment name = false) :
    ∃ why, service.repositoryUrl owner name = .error (.invalidRepository why) := by
  unfold Service.repositoryUrl checkSegment
  cases ho : isSegment owner with
  | false => exact ⟨_, rfl⟩
  | true =>
    have hn : isSegment name = false := h.resolve_left (by simp [ho])
    rw [hn]
    exact ⟨_, rfl⟩

theorem isSegment_of_repositoryUrl {u : Url} (h : service.repositoryUrl owner name = .ok u) :
    isSegment owner = true ∧ isSegment name = true := by
  have hvalid (hno : isSegment owner = false ∨ isSegment name = false) : False := by
    have hinvalid : ∃ why, service.repositoryUrl owner name = .error (.invalidRepository why) :=
      invalid_of_isSegment hno
    obtain ⟨why, hwhy⟩ := hinvalid
    rw [hwhy] at h
    cases h
  constructor
  · exact Bool.of_not_eq_false fun ho => hvalid (.inl ho)
  · exact Bool.of_not_eq_false fun hn => hvalid (.inr hn)

/-- The segments of one repository are those of no other. -/
theorem eq_of_segmentOf {owner' name' : String} {o o' n n' stem : String}
    (ho : SegmentOf owner o) (hn : SegmentOf name n) (ho' : SegmentOf owner' o')
    (hn' : SegmentOf name' n')
    (h : stem ++ "/repos/" ++ o ++ "/" ++ n = stem ++ "/repos/" ++ o' ++ "/" ++ n') :
    owner = owner' ∧ name = name' := by
  have hlist : o.toList ++ '/' :: n.toList = o'.toList ++ '/' :: n'.toList := by
    have hslash : "/".toList = ['/'] := by decide
    have hlist := congrArg String.toList h
    simpa only [String.toList_append, List.append_assoc, List.append_cancel_left_eq, hslash,
      List.singleton_append] using hlist
  obtain ⟨hoo, -, hnn⟩ := (List.append_cons_inj_of_notMem ho.noSlash hn.noSlash).1 hlist
  exact ⟨Option.some.inj (by rw [← ho.decoded, ← ho'.decoded, hoo]),
    Option.some.inj (by rw [← hn.decoded, ← hn'.decoded, hnn])⟩

/-- URLs that differ in their paths alone have different texts. -/
theorem path_eq_of_text {path path' : Url.Path}
    (h : { base with path := path }.text = { base with path := path' }.text) :
    path.text = path'.text := by
  have hlist := congrArg String.toList h
  unfold Url.text at hlist
  simp only [String.toList_append] at hlist
  exact String.toList_inj.1 (List.append_cancel_left (List.append_cancel_right hlist))

end Services

/-- **Requests stay below the base.** With a base of the web, an empty owner or name and one that is
a dot segment are refused. Any other two lead to a URL that differs from the base in its path alone,
which ends with a segment for each of them, if they hold no tabs and line breaks; and different ones
lead to different URLs. -/
theorem repositoryUrl_below {service : Service} {base : Url}
    (hbase : Url.parse service.baseUrl = .ok base)
    (hscheme : base.scheme = "http" ∨ base.scheme = "https") :
    (∀ owner name, owner ∈ ["", ".", ".."] ∨ name ∈ ["", ".", ".."] →
      ∃ why, service.repositoryUrl owner name = .error (.invalidRepository why)) ∧
    (∀ owner name, owner ∉ ["", ".", ".."] → name ∉ ["", ".", ".."] → IsKept owner → IsKept name →
      ∃ u, service.repositoryUrl owner name = .ok u ∧ Below base owner name u) ∧
    (∀ owner name owner' name' u u', IsKept owner → IsKept name → IsKept owner' → IsKept name' →
      service.repositoryUrl owner name = .ok u → service.repositoryUrl owner' name' = .ok u' →
      u.text = u'.text → owner = owner' ∧ name = name') := by
  have hspecial : isSpecialScheme base.scheme = true := by
    rcases hscheme with h | h <;> rw [h] <;> decide
  have hfile : base.scheme ≠ "file" := by
    rcases hscheme with h | h <;> rw [h] <;> decide
  obtain ⟨path, hpath⟩ := segments_of_parse hbase hspecial hfile
  refine ⟨fun owner name h => ?_, fun owner name ho hn howner hname => ?_,
    fun owner name owner' name' u u' howner hname howner' hname' hu hu' htext => ?_⟩
  · refine invalid_of_isSegment (h.imp (fun h => ?_) fun h => ?_)
    · exact Bool.eq_false_iff.2 fun hs => isSegment_iff.1 hs h
    · exact Bool.eq_false_iff.2 fun hs => isSegment_iff.1 hs h
  · have ho' := isSegment_iff.2 ho
    have hn' := isSegment_iff.2 hn
    refine ⟨_, repositoryUrl_eq hbase hpath hspecial hfile ho' hn' howner hname, rfl, rfl, rfl, rfl,
      (Path.segments (stem path)).text, _, _, ?_, text_repository _ _ _,
      segmentOf_encodeSegment ho' howner, segmentOf_encodeSegment hn' hname⟩
    rw [hpath]
    exact endsAfter_stem path
  · obtain ⟨ho, hn⟩ := isSegment_of_repositoryUrl hu
    obtain ⟨ho', hn'⟩ := isSegment_of_repositoryUrl hu'
    rw [repositoryUrl_eq hbase hpath hspecial hfile ho hn howner hname] at hu
    rw [repositoryUrl_eq hbase hpath hspecial hfile ho' hn' howner' hname'] at hu'
    obtain rfl := Except.ok.inj hu
    obtain rfl := Except.ok.inj hu'
    have hpaths := path_eq_of_text htext
    rw [text_repository, text_repository] at hpaths
    exact eq_of_segmentOf (segmentOf_encodeSegment ho howner) (segmentOf_encodeSegment hn hname)
      (segmentOf_encodeSegment ho' howner') (segmentOf_encodeSegment hn' hname') hpaths

/-- The service at an address of its own. -/
def nearby : Service := Service.standard.withBaseUrl "http://[::1]/v3/"

theorem parse_nearby : Url.parse nearby.baseUrl =
    .ok ⟨"http", "", none, some "[::1]", none, false, .segments ["v3"], none, none⟩ := by
  decide +kernel

/-- A slash in a name stays in its segment. -/
theorem repositoryUrl_below_nearby :
    ∃ base, Url.parse nearby.baseUrl = .ok base ∧
      ∃ u, nearby.repositoryUrl "a/.." "b" = .ok u ∧ Below base "a/.." "b" u := by
  obtain ⟨-, hbelow, -⟩ := repositoryUrl_below parse_nearby (.inl rfl)
  exact ⟨_, parse_nearby, hbelow "a/.." "b" (by decide) (by decide) (by decide) (by decide)⟩

/-- The service at an address whose path is nothing but two slashes. -/
def doubled : Service := Service.standard.withBaseUrl "http://[::1]//?q"

/-- With a tab in it, an owner is not recognised as a dot segment and leads out of the repositories,
and two owners have one URL. Of a path of two slashes alone both are lost. -/
theorem repositoryUrl_leaves_nearby :
    (∃ u, nearby.repositoryUrl ".\t." "n" = .ok u ∧ u.path.text = "/v3//n") ∧
      (∃ u, nearby.repositoryUrl "a\tb" "n" = .ok u ∧ nearby.repositoryUrl "ab" "n" = .ok u) ∧
      ∃ base u, Url.parse doubled.baseUrl = .ok base ∧ base.path.text = "//" ∧
        doubled.repositoryUrl "o" "n" = .ok u ∧ u.path.text = "/repos/o/n" := by
  refine
    ⟨⟨⟨"http", "", none, some "[::1]", none, false, .segments ["v3", "", "n"], none, none⟩, ?_, ?_⟩,
      ⟨⟨"http", "", none, some "[::1]", none, false, .segments ["v3", "repos", "ab", "n"], none,
        none⟩, ?_, ?_⟩,
      ⟨"http", "", none, some "[::1]", none, false, .segments ["", ""], some "q", none⟩,
      ⟨"http", "", none, some "[::1]", none, false, .segments ["repos", "o", "n"], some "q",
        none⟩, ?_, ?_, ?_, ?_⟩ <;> decide +kernel

end Repository

end Provision
