import Mathlib.Data.List.TakeWhile
import ResultBoards.Http.Url
import ResultBoards.Proofs.Text.Bytes

/-!
# Paths that are read as they are written

Reading the path of a URL cuts it at its slashes, encodes what may not stand in it and resolves
the segments of dots.  Where all segments are made of path characters only the dots are left to
be resolved, so the path is read as it is written up to the first segment of dots.

A text that is percent-encoded here is made of path characters.  It is a segment of dots only if
the text itself is one or two dots: dots may stand for themselves, and spelling them with percent
signs makes no difference, since what counts as a dot for the path decodes to one
(`decode?_of_isDots`).
-/

namespace ResultBoards

namespace Text.Percent

variable {c : Char} {text : List Char}

theorem encodeExcept_eq_self {kept : Char → Bool} (hkept : ∀ c ∈ text, kept c = true) :
    encodeExcept kept text = text := by
  induction text with
  | nil => rfl
  | cons c rest ih =>
      have hc := hkept c List.mem_cons_self
      have hrest := ih fun d hd => hkept d (List.mem_cons_of_mem _ hd)
      rw [encodeExcept, List.flatMap_cons, if_pos hc, List.singleton_append]
      exact congrArg _ hrest

/-- What is true of the unreserved characters among the first 128 is true of all. -/
theorem of_isUnreserved (good : Char → Bool) (hkept : isUnreserved c = true)
    (hgood : ∀ code < 128, isUnreserved (Char.ofNat code) = true →
      good (Char.ofNat code) = true) : good c = true := by
  have hcode := hgood c.toNat (toNat_lt_of_isUnreserved hkept)
  rw [Char.ofNat_toNat] at hcode
  exact hcode hkept

/-- The characters of an encoded text are the unreserved ones and the percent sign. -/
theorem of_mem_encode (good : Char → Bool) {text : String} (hc : c ∈ (encode text).toList)
    (hpercent : good '%' = true)
    (hgood : ∀ code < 128, isUnreserved (Char.ofNat code) = true →
      good (Char.ofNat code) = true) : good c = true := by
  by_cases hne : c = '%'
  · rw [hne]
    exact hpercent
  · exact of_isUnreserved good ((spells_encode text).isUnreserved_of_mem hc hne) hgood

theorem encode_injective : Function.Injective encode := by
  intro first second hsame
  have hdecoded := decode?_encode first
  rw [hsame, decode?_encode] at hdecoded
  exact (Option.some.inj hdecoded).symm

theorem encode_ne_nil {text : String} (hne : text ≠ "") : (encode text).toList ≠ [] := by
  intro hnil
  have hsame : encode text = encode "" := String.toList_inj.mp hnil
  exact hne (encode_injective hsame)

end Text.Percent

namespace Http.Url

open Text.Percent (decodeBytes decodeBytes_encoded decodeBytes_kept decode? encode
  encodeExcept_eq_self decode?_encode)

/-! ## Segments of dots -/

theorem decodeBytes_of_dots {count : Nat} {segment : List Char}
    (hdots : isDots.dots count segment = true) :
    decodeBytes segment = List.replicate count '.'.toUInt8 := by
  fun_induction isDots.dots count segment with
  | case1 rest =>
      rw [List.isEmpty_iff.mp hdots]
      rfl
  | case2 count rest ih =>
      have hdot : decodeBytes ('.' :: rest) = '.'.toUInt8 :: decodeBytes rest :=
        decodeBytes_kept (by decide) (by decide) rest
      rw [hdot, ih hdots, List.replicate_succ]
  | case3 count e rest ih =>
      obtain ⟨he, hrest⟩ := Bool.and_eq_true_iff.mp hdots
      have hdigit : Text.Percent.IsHexDigit ('.'.toUInt8.toNat % 16) e := by
        rcases Bool.or_eq_true_iff.mp he with he | he
        · exact .inl (by rw [eq_of_beq he]; decide)
        · exact .inr (by rw [eq_of_beq he]; decide)
      have hdot : decodeBytes ('%' :: '2' :: e :: rest) = '.'.toUInt8 :: decodeBytes rest :=
        decodeBytes_encoded (by decide) hdigit rest
      rw [hdot, ih hrest, List.replicate_succ]
  | case4 => exact absurd hdots Bool.false_ne_true

/-- A segment that counts as dots stands for that many dots, however they are spelled. -/
theorem decode?_of_isDots {count : Nat} {segment : List Char}
    (hdots : isDots count segment = true) :
    decode? segment = String.fromUTF8? ⟨(List.replicate count '.'.toUInt8).toArray⟩ := by
  rw [decode?, decodeBytes_of_dots hdots]

/-- An encoded text counts as dots only if it is made of that many dots. -/
theorem eq_of_isDots_encode {count : Nat} {text : String} (dots : String)
    (hbytes : dots.toUTF8 = ⟨(List.replicate count '.'.toUInt8).toArray⟩)
    (hdots : isDots count (encode text).toList = true) : text = dots := by
  have hdecoded := decode?_of_isDots hdots
  rw [decode?_encode, ← hbytes, fromUTF8?_toUTF8] at hdecoded
  exact Option.some.inj hdecoded

/-! ## Plain segments -/

/-- All characters stand for themselves in a path, and none ends a segment. -/
def IsSegment (segment : List Char) : Prop :=
  ∀ c ∈ segment, isPathChar c = true ∧ isSlash c = false

/-- What is true of the characters of a given text is found by going through them. -/
theorem forall_mem_of_all {good : Char → Prop} [DecidablePred good] {text : List Char}
    (hall : (text.all fun c => decide (good c)) = true) : ∀ c ∈ text, good c :=
  fun c hc => of_decide_eq_true (List.all_eq_true.mp hall c hc)

instance (segment : List Char) : Decidable (IsSegment segment) :=
  List.decidableBAll _ segment

/-- The segment is read as it is written. -/
structure IsPlainSegment (segment : List Char) : Prop where
  isSegment : IsSegment segment
  not_here : isDots 1 segment = false
  not_above : isDots 2 segment = false

theorem isSegment_encode (text : String) : IsSegment (encode text).toList := by
  intro c hc
  have hslash : (!isSlash c) = true :=
    Text.Percent.of_mem_encode (fun c => !isSlash c) hc (by decide) (by decide)
  exact ⟨Text.Percent.of_mem_encode isPathChar hc (by decide) (by decide), by simpa using hslash⟩

theorem isPlainSegment_encode {text : String} (hone : text ≠ ".") (htwo : text ≠ "..") :
    IsPlainSegment (encode text).toList where
  isSegment := isSegment_encode text
  not_here := Bool.eq_false_iff.mpr fun hdots => hone (eq_of_isDots_encode "." rfl hdots)
  not_above := Bool.eq_false_iff.mpr fun hdots => htwo (eq_of_isDots_encode ".." rfl hdots)

theorem IsSegment.encodeExcept_eq {segment : List Char} (hsegment : IsSegment segment) :
    Text.Percent.encodeExcept isPathChar segment = segment :=
  encodeExcept_eq_self fun c hc => (hsegment c hc).1

/-! ## Cutting and resolving -/

/-- A path as it is written. -/
def pathText (segments : List (List Char)) : List Char :=
  segments.flatMap ('/' :: ·)

theorem splitSegments_of_isSegment {segment : List Char} (hsegment : IsSegment segment) :
    splitSegments segment = [segment] := by
  induction segment with
  | nil => rfl
  | cons c rest ih =>
      have hslash := (hsegment c List.mem_cons_self).2
      rw [splitSegments, ih fun d hd => hsegment d (List.mem_cons_of_mem _ hd)]
      simp [hslash]

theorem splitSegments_ne_nil (text : List Char) : splitSegments text ≠ [] := by
  cases text with
  | nil => exact List.cons_ne_nil _ _
  | cons c rest =>
      rw [splitSegments]
      split
      · exact List.cons_ne_nil _ _
      · split <;> exact List.cons_ne_nil _ _

theorem splitSegments_append {segment : List Char} (hsegment : IsSegment segment)
    (rest : List Char) :
    splitSegments (segment ++ '/' :: rest) = segment :: splitSegments rest := by
  induction segment with
  | nil =>
      obtain ⟨first, others, hrest⟩ := List.exists_cons_of_ne_nil (splitSegments_ne_nil rest)
      rw [List.nil_append, splitSegments, hrest]
      rfl
  | cons c segment ih =>
      have hslash := (hsegment c List.mem_cons_self).2
      rw [List.cons_append, splitSegments,
        ih fun d hd => hsegment d (List.mem_cons_of_mem _ hd)]
      simp [hslash]

/-- Cutting a path at its slashes gives its segments. -/
theorem splitSegments_pathText {first : List Char} {others : List (List Char)}
    (hfirst : IsSegment first) (hothers : ∀ segment ∈ others, IsSegment segment) :
    splitSegments (first ++ pathText others) = first :: others := by
  induction others generalizing first with
  | nil => rw [pathText, List.flatMap_nil, List.append_nil, splitSegments_of_isSegment hfirst]
  | cons next rest ih =>
      rw [pathText, List.flatMap_cons, List.cons_append, splitSegments_append hfirst]
      exact congrArg _ (ih (hothers next List.mem_cons_self) fun segment hsegment =>
        hothers segment (List.mem_cons_of_mem _ hsegment))

/-- Plain segments are kept, whatever follows. -/
theorem resolve_append {segments : List (List Char)}
    (hplain : ∀ segment ∈ segments, IsPlainSegment segment) (reached rest : List (List Char)) :
    resolve reached (segments ++ rest) = resolve (segments.reverse ++ reached) rest := by
  induction segments generalizing reached with
  | nil => rfl
  | cons segment segments ih =>
      obtain ⟨hsegment, hhere, habove⟩ := hplain segment List.mem_cons_self
      rw [List.cons_append, resolve, hsegment.encodeExcept_eq]
      simp only [hhere, habove, Bool.false_eq_true, if_false]
      rw [ih fun other hother => hplain other (List.mem_cons_of_mem _ hother), List.reverse_cons,
        List.append_assoc, List.singleton_append]

theorem resolve_last {segment : List Char} (hplain : IsPlainSegment segment)
    (reached : List (List Char)) : resolve reached [segment] = reached.reverse ++ [segment] := by
  rw [← List.append_nil [segment],
    resolve_append (fun other hother => List.mem_singleton.mp hother ▸ hplain), resolve]
  simp

/-- One dot at the end leaves an empty segment. -/
theorem resolve_dot (reached : List (List Char)) :
    resolve reached [['.']] = reached.reverse ++ [[]] := by
  have hencoded : Text.Percent.encodeExcept isPathChar ['.'] = ['.'] := by decide
  rw [resolve, hencoded]
  simp [show isDots 2 ['.'] = false by decide, show isDots 1 ['.'] = true by decide]

/-- Two dots at the end leave an empty segment in the place of the segment before them. -/
theorem resolve_dots (reached : List (List Char)) :
    resolve reached [['.', '.']] = (reached.drop 1).reverse ++ [[]] := by
  have hencoded : Text.Percent.encodeExcept isPathChar ['.', '.'] = ['.', '.'] := by decide
  rw [resolve, hencoded]
  simp [show isDots 2 ['.', '.'] = true by decide]

/-! ## Reading -/

theorem ne_of_isPathChar {c : Char} (hc : isPathChar c = true) : c ≠ '?' ∧ c ≠ '#' := by
  constructor
  · rintro rfl
    exact absurd hc (by decide)
  · rintro rfl
    exact absurd hc (by decide)

theorem mem_pathText {segments : List (List Char)}
    (hsegments : ∀ segment ∈ segments, IsSegment segment) {c : Char} (hc : c ∈ pathText segments) :
    isPathChar c = true := by
  obtain ⟨segment, hsegment, hc⟩ := List.mem_flatMap.mp hc
  rcases List.mem_cons.mp hc with rfl | hc
  · decide
  · exact (hsegments segment hsegment c hc).1

theorem takeWhile_pathText {segments : List (List Char)}
    (hsegments : ∀ segment ∈ segments, IsSegment segment) (rest : List Char)
    (hrest : ∀ c ∈ rest.head?, c = '?') :
    (pathText segments ++ rest).takeWhile (fun c => decide (c ≠ '?' ∧ c ≠ '#')) =
      pathText segments := by
  rw [List.takeWhile_append_of_pos fun c hc =>
    decide_eq_true (ne_of_isPathChar (mem_pathText hsegments hc))]
  cases rest with
  | nil => rw [List.takeWhile_nil, List.append_nil]
  | cons c rest =>
      obtain rfl := hrest c rfl
      rw [List.takeWhile_cons_of_neg (by decide), List.append_nil]

/-- A path without a query is read segment by segment. -/
theorem readPath_pathText {segments : List (List Char)} (hne : segments ≠ [])
    (hsegments : ∀ segment ∈ segments, IsSegment segment) :
    readPath [] (pathText segments) = (resolve [] segments, none) := by
  obtain ⟨first, others, rfl⟩ := List.exists_cons_of_ne_nil hne
  obtain ⟨hfirst, hothers⟩ := List.forall_mem_cons.mp hsegments
  have htake := takeWhile_pathText hsegments [] (by simp)
  rw [List.append_nil] at htake
  have htext : pathText (first :: others) = '/' :: (first ++ pathText others) := rfl
  rw [readPath, htake, List.drop_length, htext]
  simp only [show isSlash '/' = true by decide, if_true, splitSegments_pathText hfirst hothers]

/-- So is a path with a query, and the query is kept. -/
theorem readPath_query {segments : List (List Char)} (hne : segments ≠ [])
    (hsegments : ∀ segment ∈ segments, IsSegment segment) {query : List Char}
    (hquery : ∀ c ∈ query, isQueryChar c = true) :
    readPath [] (pathText segments ++ '?' :: query) = (resolve [] segments, some query) := by
  obtain ⟨first, others, rfl⟩ := List.exists_cons_of_ne_nil hne
  obtain ⟨hfirst, hothers⟩ := List.forall_mem_cons.mp hsegments
  have htake := takeWhile_pathText hsegments ('?' :: query) (by simp)
  have hmark : ∀ c ∈ query, decide (c ≠ '#') = true := by
    intro c hc
    refine decide_eq_true ?_
    rintro rfl
    exact absurd (hquery '#' hc) (by decide)
  have hkept : query.takeWhile (fun c => decide (c ≠ '#')) = query :=
    List.takeWhile_eq_self_iff.mpr hmark
  have htext : pathText (first :: others) = '/' :: (first ++ pathText others) := rfl
  rw [readPath, htake, List.drop_left, htext]
  simp only [show isSlash '/' = true by decide, if_true, splitSegments_pathText hfirst hothers,
    hkept, encodeExcept_eq_self hquery]

/-! ## Addresses -/

/-- The blank-free text of an address is read as it is. -/
theorem trim_eq_self {text : List Char} (hchars : ∀ c ∈ text, ' ' < c) : trim text = text := by
  have hfront : ∀ text : List Char, (∀ c ∈ text, ' ' < c) →
      text.dropWhile (fun c => decide (c ≤ ' ')) = text := by
    intro text hchars
    cases text with
    | nil => rfl
    | cons c rest =>
        have hc : ¬ c ≤ ' ' := Char.not_le.mpr (hchars c List.mem_cons_self)
        rw [List.dropWhile_cons_of_neg (by simpa using hc)]
  have hback := hfront text.reverse fun c hc => hchars c (List.mem_reverse.mp hc)
  rw [trim, hfront text hchars, hback, List.reverse_reverse, List.filter_eq_self]
  intro c hc
  have hblank : ∀ {d : Char}, d ≤ ' ' → c ≠ d := fun hd heq =>
    absurd (hchars c hc) (Char.not_lt.mpr (heq ▸ hd))
  exact decide_eq_true ⟨hblank (by decide), hblank (by decide), hblank (by decide)⟩

/-- The characters of a scheme. -/
def isSchemeChar (c : Char) : Bool :=
  c.isAlphanum || c == '+' || c == '-' || c == '.'

theorem splitScheme?_append {c : Char} {scheme : List Char} (hletter : c.isAlpha = true)
    (hchars : ∀ d ∈ c :: scheme, isSchemeChar d = true) (rest : List Char) :
    splitScheme? (c :: scheme ++ ':' :: rest) = some ((c :: scheme).map Char.toLower, rest) := by
  have htake : (c :: scheme ++ ':' :: rest).takeWhile
      (fun d => d.isAlphanum || d == '+' || d == '-' || d == '.') = c :: scheme := by
    show (c :: scheme ++ ':' :: rest).takeWhile isSchemeChar = c :: scheme
    rw [List.takeWhile_append_of_pos hchars, List.takeWhile_cons_of_neg (by decide),
      List.append_nil]
  simp only [splitScheme?, htake, List.drop_left, hletter, if_true]

/-- What is read behind the scheme ends at the first slash. -/
theorem readFromAuthority?_append {authority rest : List Char} {host : String}
    {port : Option Nat} (scheme : Scheme)
    (hchars : ∀ c ∈ authority, isSlash c = false ∧ c ≠ '?' ∧ c ≠ '#')
    (hread : readAuthority? authority = some (host, port)) :
    readFromAuthority? scheme (authority ++ '/' :: rest) =
      some ⟨scheme, host, port.getD scheme.defaultPort, (readPath [] ('/' :: rest)).1,
        (readPath [] ('/' :: rest)).2⟩ := by
  have htake : (authority ++ '/' :: rest).takeWhile
      (fun c => !(isSlash c) && c != '?' && c != '#') = authority := by
    rw [List.takeWhile_append_of_pos fun c hc => by simp [hchars c hc],
      List.takeWhile_cons_of_neg (by decide), List.append_nil]
  simp only [readFromAuthority?, htake, hread, List.drop_left]
  rfl

end Http.Url

end ResultBoards
