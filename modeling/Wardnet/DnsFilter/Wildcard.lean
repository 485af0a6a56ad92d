import Wardnet.Core.Regex
import Wardnet.DnsFilter.FastPath

/-!
# Wildcard rules

`compile_wildcard` turns the body of an adblock rule into a regular
expression.  A `*` becomes `.*` and stands for any text, as it should; a dot
is passed on as it is, and so stands for any character.
-/

namespace Wardnet.Filter

open List
open Net (IpAddr)
open Regex (Atom Piece Expr Matches)

/-- What a wildcard rule is meant to match: a `*` stands for any text and
every other character for itself, whatever its case. -/
inductive Glob : Text → Text → Prop
  | nil : Glob [] []
  | star {pat text : Text} (skipped : Text) (hglob : Glob pat text) :
      Glob ('*' :: pat) (skipped ++ text)
  | char {pat text : Text} {char other : Char} (hstar : char ≠ '*')
      (hsame : char.toLower = other.toLower) (hglob : Glob pat text) :
      Glob (char :: pat) (other :: text)

variable {pat : Text} {char : Char} {text : Text}

theorem glob_nil_iff : Glob [] text ↔ text = [] := by
  constructor
  · intro hglob
    cases hglob
    rfl
  · intro htext
    rw [htext]
    exact .nil

theorem glob_star_iff :
    Glob ('*' :: pat) text ↔ ∃ skipped rest, text = skipped ++ rest ∧ Glob pat rest := by
  constructor
  · intro hglob
    cases hglob with
    | star skipped hglob => exact ⟨skipped, _, rfl, hglob⟩
    | char hstar hsame hglob => exact absurd rfl hstar
  · intro ⟨skipped, rest, htext, hglob⟩
    rw [htext]
    exact .star skipped hglob

theorem glob_char_iff (hstar : char ≠ '*') :
    Glob (char :: pat) text ↔ ∃ other rest, text = other :: rest ∧ char.toLower = other.toLower ∧
        Glob pat rest := by
  constructor
  · intro hglob
    cases hglob with
    | star skipped hglob => exact absurd rfl hstar
    | char hstar hsame hglob => exact ⟨_, _, rfl, hsame, hglob⟩
  · intro ⟨other, rest, htext, hsame, hglob⟩
    rw [htext]
    exact .char hstar hsame hglob

/-! ## The expression of a pattern -/

/-- A character of a pattern: a domain character or a star. -/
def PatternChar (char : Char) : Prop := char = '*' ∨ isDomainChar char = true
  deriving Decidable

theorem patternChar_of_all (hall : text.all (fun char => char == '*' || isDomainChar char) = true) :
    ∀ char ∈ text, PatternChar char := by
  simpa [PatternChar] using hall

/-- The piece a character of a pattern is compiled to. -/
def pieceOf (char : Char) : Piece :=
  if char = '*' then ⟨.anyChar, true⟩
  else if char = '.' then ⟨.anyChar, false⟩
  else ⟨.literal char, false⟩

def exprOf (pat : Text) : Expr where
  caseInsensitive := true
  anchoredStart := true
  anchoredEnd := true
  pieces := pat.map pieceOf

/-- The text a character of a pattern is compiled to. -/
def sourceOf (char : Char) : Text := if char = '*' then ".*".toList else [char]

theorem toNat_lt_of_isDomainChar (hchar : isDomainChar char = true) : char.toNat < 128 := by
  have hcode : char.isAlphanum = (decide (65 ≤ char.toNat ∧ char.toNat ≤ 90) ||
        (decide (97 ≤ char.toNat) && decide (char.toNat ≤ 122)) ||
        (decide (48 ≤ char.toNat) && decide (char.toNat ≤ 57))) := rfl
  rw [isDomainChar, hcode] at hchar
  simp only [Bool.or_eq_true, Bool.and_eq_true, decide_eq_true_eq, beq_iff_eq] at hchar
  rcases hchar with ((hcode | rfl) | rfl) | rfl
  · omega
  · decide
  · decide
  · decide

theorem atomOf_of_isDomainChar (hchar : isDomainChar char = true) :
    Regex.atomOf char = some (pieceOf char).atom ∧ char ≠ '*' := by
  have hcodes : ∀ code < 128, isDomainChar (Char.ofNat code) = true →
      Regex.atomOf (Char.ofNat code) = some (pieceOf (Char.ofNat code)).atom ∧
        Char.ofNat code ≠ '*' := by
    decide +kernel
  have hcode := hcodes char.toNat (toNat_lt_of_isDomainChar hchar)
  rw [Char.ofNat_toNat] at hcode
  exact hcode hchar

section

variable (hpat : ∀ char ∈ pat, PatternChar char)
include hpat

theorem wildcardSource_eq :
    wildcardSource pat = "(?i)^".toList ++ pat.flatMap sourceOf ++ ['$'] := by
  have hkept : ∀ char ∈ pat, char ≠ '*' →
      (char.isAlphanum || char == '-' || char == '_' || char == '.') = true := by
    intro char hchar hstar
    have hdomain := (hpat char hchar).resolve_left hstar
    simp only [isDomainChar, Bool.or_eq_true] at hdomain ⊢
    tauto
  change "(?i)^".toList ++ _ ++ ['$'] = _
  congr 2
  apply flatMap_congr
  intro char hchar
  by_cases hstar : char = '*'
  · simp only [sourceOf, hstar, if_true]
  · simp only [sourceOf, hstar, if_false, hkept char hchar hstar, if_true]

/-- A star is never the first character of what is left of the source. -/
theorem exists_cons_source :
    ∃ next rest, pat.flatMap sourceOf ++ ['$'] = next :: rest ∧ next ≠ '*' := by
  cases pat with
  | nil => exact ⟨'$', [], rfl, by decide⟩
  | cons char pat =>
    rcases hpat char mem_cons_self with rfl | hdomain
    · exact ⟨'.', _, rfl, by decide⟩
    · have hstar := (atomOf_of_isDomainChar hdomain).2
      refine ⟨char, pat.flatMap sourceOf ++ ['$'], ?_, hstar⟩
      simp [sourceOf, hstar]

theorem parsePieces_source :
    Regex.parsePieces (pat.flatMap sourceOf ++ ['$']) = some (pat.map pieceOf, true) := by
  induction pat with
  | nil => rfl
  | cons char pat ih =>
    have htail := ih fun other hother => hpat other (mem_cons_of_mem char hother)
    rcases hpat char mem_cons_self with rfl | hdomain
    · have hsource : ('*' :: pat).flatMap sourceOf ++ ['$'] =
          '.' :: '*' :: (pat.flatMap sourceOf ++ ['$']) := rfl
      rw [hsource, Regex.parsePieces, htail]
      rfl
    · obtain ⟨hatom, hstar⟩ := atomOf_of_isDomainChar hdomain
      obtain ⟨next, rest, hnext, hne⟩ := exists_cons_source
        fun other hother => hpat other (mem_cons_of_mem char hother)
      have hsource : (char :: pat).flatMap sourceOf ++ ['$'] = char :: next :: rest := by
        rw [← hnext]
        simp [sourceOf, hstar]
      have hpiece : pieceOf char = ⟨(pieceOf char).atom, false⟩ := by
        rw [pieceOf, if_neg hstar]
        split <;> rfl
      rw [hsource, Regex.parsePieces, hatom]
      simp only [if_neg hne, ← hnext, htail, Option.map_some, ← hpiece, map_cons]

theorem parse_wildcardSource : Regex.parse (wildcardSource pat) = some (exprOf pat) := by
  have hsource : wildcardSource pat =
      '(' :: '?' :: 'i' :: ')' :: '^' :: (pat.flatMap sourceOf ++ ['$']) := by
    rw [wildcardSource_eq hpat]
    rfl
  rw [hsource, Regex.parse]
  simp [parsePieces_source hpat, exprOf]

end

/-! ## What the expression matches -/

theorem fold_of_patternChar (hchar : PatternChar char) :
    Regex.fold char = char.toLower ∧ char ≠ '\n' := by
  have hlt : char.toNat < 128 := by
    rcases hchar with rfl | hdomain
    · decide
    · exact toNat_lt_of_isDomainChar hdomain
  constructor
  · rw [Regex.fold, if_neg (by omega), if_neg (by omega)]
  · rintro rfl
    exact absurd hchar (by decide)

theorem accepts_literal_iff {other : Char} (hchar : PatternChar char) (hother : PatternChar other) :
    Regex.accepts true (.literal char) other = true ↔ char.toLower = other.toLower := by
  simp [Regex.accepts, (fold_of_patternChar hchar).1, (fold_of_patternChar hother).1]

theorem accepts_star (htext : ∀ char ∈ text, PatternChar char) :
    (pieceOf '*').Accepts true text := by
  constructor
  · intro char hchar
    have hnewline := (fold_of_patternChar (htext char hchar)).2
    simpa [pieceOf, Regex.accepts] using hnewline
  · intro hstarred
    exact absurd hstarred (by decide)

theorem accepts_char_iff (hchar : PatternChar char) (hstar : char ≠ '*')
    (hdot : char ≠ '.') (htext : ∀ other ∈ text, PatternChar other) :
    (pieceOf char).Accepts true text ↔ ∃ other, text = [other] ∧ char.toLower = other.toLower := by
  have hpiece : pieceOf char = ⟨.literal char, false⟩ := by rw [pieceOf, if_neg hstar, if_neg hdot]
  rw [hpiece, Piece.Accepts]
  constructor
  · rintro ⟨haccepts, hlength⟩
    obtain ⟨other, rfl⟩ := length_eq_one_iff.mp (hlength rfl)
    have hother := haccepts other mem_cons_self
    exact ⟨other, rfl, (accepts_literal_iff hchar (htext other mem_cons_self)).mp hother⟩
  · rintro ⟨other, hsingle, hsame⟩
    rw [hsingle] at htext ⊢
    refine ⟨fun last hlast => ?_, fun _ => rfl⟩
    rw [mem_singleton.mp hlast]
    exact (accepts_literal_iff hchar (htext other mem_cons_self)).mpr hsame

/-- Without a dot the expression of a pattern matches what the pattern is
meant to match. -/
theorem matches_iff_glob (hpat : ∀ char ∈ pat, PatternChar char)
    (hdot : '.' ∉ pat) (htext : ∀ char ∈ text, PatternChar char) :
    Matches true (pat.map pieceOf) text ↔ Glob pat text := by
  induction pat generalizing text with
  | nil => rw [map_nil, Matches, glob_nil_iff]
  | cons char pat ih =>
    have hpatTail : ∀ other ∈ pat, PatternChar other :=
      fun other hother => hpat other (mem_cons_of_mem char hother)
    have hdotTail : '.' ∉ pat := fun hmem => hdot (mem_cons_of_mem char hmem)
    have hchar : char ≠ '.' := fun heq => hdot (by simp [heq])
    have hsplit : Matches true ((char :: pat).map pieceOf) text ↔
        ∃ front back, text = front ++ back ∧ (pieceOf char).Accepts true front ∧ Glob pat back := by
      rw [map_cons, Matches]
      apply exists_congr
      intro front
      apply exists_congr
      intro back
      apply and_congr_right
      intro heq
      have hback : ∀ other ∈ back, PatternChar other := by
        intro other hother
        exact htext other (heq ▸ mem_append_right front hother)
      rw [ih hpatTail hdotTail hback]
    have hfront : ∀ front back, text = front ++ back → ∀ other ∈ front, PatternChar other := by
      intro front back heq other hother
      exact htext other (heq ▸ mem_append_left back hother)
    rw [hsplit]
    by_cases hstar : char = '*'
    · rw [hstar, glob_star_iff]
      constructor
      · rintro ⟨front, back, heq, _, hglob⟩
        exact ⟨front, back, heq, hglob⟩
      · rintro ⟨front, back, heq, hglob⟩
        exact ⟨front, back, heq, accepts_star (hfront front back heq), hglob⟩
    · have haccepts {front : Text} (hfront : ∀ other ∈ front, PatternChar other) :=
        accepts_char_iff (hpat char mem_cons_self) hstar hchar hfront
      rw [glob_char_iff hstar]
      constructor
      · rintro ⟨front, back, heq, hpiece, hglob⟩
        obtain ⟨other, rfl, hsame⟩ := (haccepts (hfront front back heq)).mp hpiece
        exact ⟨other, back, heq, hsame, hglob⟩
      · rintro ⟨other, back, heq, hsame, hglob⟩
        have hsingle := hfront [other] back heq
        exact ⟨[other], back, heq, (haccepts hsingle).mpr ⟨other, rfl, hsame⟩, hglob⟩

/-- A name that the expression of a pattern matches: nothing for a star and a
letter for a dot. -/
def sampleOf (pat : Text) : Text :=
  (pat.filter (· ≠ '*')).map fun char => if char = '.' then 'x' else char

theorem matches_sampleOf (pat : Text) : Matches true (pat.map pieceOf) (sampleOf pat) := by
  induction pat with
  | nil => rfl
  | cons char pat ih =>
    by_cases hstar : char = '*'
    · exact ⟨[], sampleOf pat, by simp [sampleOf, hstar], by simp [Piece.Accepts, pieceOf, hstar],
        ih⟩
    · refine ⟨[if char = '.' then 'x' else char], sampleOf pat, by simp [sampleOf, hstar], ?_, ih⟩
      by_cases hdot : char = '.'
      · simp [Piece.Accepts, pieceOf, Regex.accepts, hdot]
      · simp [Piece.Accepts, pieceOf, Regex.accepts, hstar, hdot]

theorem isDomainChar_of_mem_sampleOf (hpat : ∀ char ∈ pat, PatternChar char) :
    ∀ char ∈ sampleOf pat, isDomainChar char = true ∧ char ≠ '.' := by
  intro char hchar
  obtain ⟨source, hsource, rfl⟩ := mem_map.mp hchar
  obtain ⟨hmem, hstar⟩ := mem_filter.mp hsource
  by_cases hdot : source = '.'
  · rw [if_pos hdot]
    decide
  · rw [if_neg hdot]
    exact ⟨(hpat source hmem).resolve_left (of_decide_eq_true hstar), hdot⟩

theorem toLower_ne_dot (hchar : isDomainChar char = true) (hdot : char ≠ '.') :
    '.'.toLower ≠ char.toLower := by
  have hcodes : ∀ code < 128, Char.ofNat code ≠ '.' →
      '.'.toLower ≠ (Char.ofNat code).toLower := by
    decide +kernel
  have hcode := hcodes char.toNat (toNat_lt_of_isDomainChar hchar)
  rw [Char.ofNat_toNat] at hcode
  exact hcode hdot

/-- A pattern with a dot is not meant to match a name without one. -/
theorem Glob.dot_notMem (hglob : Glob pat text)
    (htext : ∀ char ∈ text, isDomainChar char = true ∧ char ≠ '.') : '.' ∉ pat := by
  induction hglob with
  | nil => exact not_mem_nil
  | star skipped hglob ih =>
    have htail := ih fun char hchar => htext char (mem_append_right skipped hchar)
    simpa using htail
  | char hstar hsame hglob ih =>
    obtain ⟨⟨hother, hdot⟩, hrest⟩ := forall_mem_cons.mp htext
    intro hmem
    rcases mem_cons.mp hmem with rfl | htail
    · exact toLower_ne_dot hother hdot hsame
    · exact ih hrest htail

/-- A wildcard rule matches the names it is meant to match exactly when it has
no dot, under any implementation of regular expressions that conforms to the
fragment. -/
theorem compileWildcard_glob_iff {readers : Readers} (hregex : Regex.Conforms readers.regex)
    {pat : Text} (hpat : ∀ char ∈ pat, PatternChar char)
    {isMatch : Text → Bool} (hcompile : compileWildcard readers pat = .ok isMatch) :
    (∀ domain : Text, (∀ char ∈ domain, isDomainChar char = true) →
      (isMatch domain = true ↔ Glob pat domain)) ↔ '.' ∉ pat := by
  have hnew : readers.regex (wildcardSource pat) = .ok isMatch := by
    rw [compileWildcard] at hcompile
    split at hcompile
    next compiled hnew =>
      rw [hnew, Except.ok.inj hcompile]
    · simp at hcompile
  have hmatch (domain : Text) : isMatch domain = true ↔ Matches true (pat.map pieceOf) domain := by
    rw [hregex _ _ _ (parse_wildcardSource hpat) hnew domain]
    exact Regex.isMatch_iff_matches rfl rfl
  constructor
  · intro hglob
    have hsample := isDomainChar_of_mem_sampleOf hpat
    have hmeant := (hglob (sampleOf pat) fun char hchar => (hsample char hchar).1).mp
      ((hmatch _).mpr (matches_sampleOf pat))
    exact hmeant.dot_notMem hsample
  · intro hdot domain hdomain
    rw [hmatch domain]
    exact matches_iff_glob hpat hdot fun char hchar => .inr (hdomain char hchar)

/-- The readers of the fragment alone. -/
def Readers.fragment : Readers where
  recordType := fun _ => none
  ipAddr := fun _ => none
  ipNetwork := fun _ => none
  regex := Regex.compile []

theorem compileWildcard_fragment (hpat : ∀ char ∈ pat, PatternChar char) :
    compileWildcard .fragment pat = .ok (exprOf pat).isMatch := by
  simp only [compileWildcard, Readers.fragment, Regex.compile, parse_wildcardSource hpat]

theorem compileWildcard_glob_iff_adStar :
    (exprOf "ad*".toList).isMatch "AdServer".toList = true ∧
      Glob "ad*".toList "AdServer".toList := by
  have hpat : ∀ char ∈ "ad*".toList, PatternChar char := patternChar_of_all (by decide +kernel)
  have hdomain : ∀ char ∈ "AdServer".toList, isDomainChar char = true :=
    all_eq_true.mp (by decide +kernel)
  have hmatch : (exprOf "ad*".toList).isMatch "AdServer".toList = true := by decide +kernel
  have hglob := (compileWildcard_glob_iff (Regex.conforms_compile []) hpat
    (compileWildcard_fragment hpat)).mpr (by decide)
  exact ⟨hmatch, (hglob _ hdomain).mp hmatch⟩

/-- The rule for the names under `example.com` also matches a name without a
dot that only ends like it. -/
theorem wildcard_dot_matches_any : Regex.Conforms Readers.fragment.regex ∧
      compileWildcard .fragment "*.example.com".toList =
        .ok (exprOf "*.example.com".toList).isMatch ∧
      (exprOf "*.example.com".toList).isMatch "notexample-com".toList = true ∧
      ¬ Glob "*.example.com".toList "notexample-com".toList := by
  have hpat : ∀ char ∈ "*.example.com".toList, PatternChar char :=
    patternChar_of_all (by decide +kernel)
  refine ⟨Regex.conforms_compile [], compileWildcard_fragment hpat, by decide +kernel, ?_⟩
  intro hglob
  have hall :
      "notexample-com".toList.all (fun char => isDomainChar char && char != '.') = true := by
    decide +kernel
  have htext : ∀ char ∈ "notexample-com".toList, isDomainChar char = true ∧ char ≠ '.' := by
    simpa using hall
  exact hglob.dot_notMem htext (by decide)

/-! ## Wildcard rules in a list -/

theorem splitOnce_of_notMem {text : Text} {char : Char} (hmem : char ∉ text) :
    text.splitOnce char = none := by
  induction text with
  | nil => rfl
  | cons head text ih =>
    have hhead : head ≠ char := fun heq => hmem (by simp [heq])
    rw [Text.splitOnce, if_neg hhead, ih fun htail => hmem (mem_cons_of_mem _ htail)]
    rfl

/-- An adblock rule with a star in its body is compiled as a wildcard. -/
theorem parseLine_wildcard (readers : Readers) {pat : Text}
    (hpat : ∀ char ∈ pat, PatternChar char) (hstar : '*' ∈ pat) :
    parseLine readers ("||".toList ++ pat ++ ['^']) =
      (compileWildcard readers pat).map fun isMatch => some (.pattern isMatch .default false) := by
  have htrim : Text.trim ('|' :: (('|' :: pat) ++ ['^'])) =
      '|' :: (('|' :: pat) ++ ['^']) := by
    rw [Text.trim, dropWhile_cons_of_neg (by decide)]
    have hreverse : ('|' :: (('|' :: pat) ++ ['^'])).reverse =
        '^' :: ('|' :: '|' :: pat).reverse := by
      simp
    rw [hreverse, dropWhile_cons_of_neg (by decide)]
    simp
  have hdollar : '$' ∉ pat ++ ['^'] := by
    intro hmem
    rcases mem_append.mp hmem with hmem | hmem
    · exact absurd (hpat '$' hmem) (by decide)
    · simp at hmem
  have hne : pat ≠ [] := ne_nil_of_mem hstar
  have hsuffix : Text.stripSuffix (pat ++ ['^']) ['^'] = some pat := by
    have hends : Text.endsWith (pat ++ ['^']) ['^'] = true :=
      isSuffixOf_iff_suffix.mpr (suffix_append _ _)
    rw [Text.stripSuffix, if_pos hends]
    simp
  have hbody : parseLine readers ('|' :: (('|' :: pat) ++ ['^'])) =
      parseAdblockRule readers false (pat ++ ['^']) := by
    rw [parseLine, htrim]
    rfl
  have hbars : "||".toList ++ pat ++ ['^'] = '|' :: (('|' :: pat) ++ ['^']) := rfl
  rw [hbars, hbody, parseAdblockRule, splitOnce_of_notMem hdollar]
  have hcontains : pat.contains '*' = true := contains_iff_mem.mpr hstar
  have hmodifiers : parseModifiers readers [] = .ok .default := rfl
  simp only [Option.getD_none, hsuffix, Option.getD_some, if_neg hne, hcontains, if_true,
    hmodifiers]
  cases compileWildcard readers pat <;> rfl

/-! ## A list of wildcard rules -/

/-- The adblock line of a pattern. -/
def wildcardLine (pat : Text) : Text := "||".toList ++ pat ++ ['^']

/-- What a line contributes: a block of the names that its pieces match. -/
theorem outcome_wildcardLine {readers : Readers} (hregex : Regex.Conforms readers.regex)
    {pat : Text} (hpat : ∀ char ∈ pat, PatternChar char) (hstar : '*' ∈ pat)
    {isMatch : Text → Bool} (hnew : readers.regex (wildcardSource pat) = .ok isMatch)
    (name : Text) (qtype : RecordType) (client : IpAddr) :
    ∃ rule, readLine readers (wildcardLine pat) = some rule ∧
      ruleOutcome name qtype client rule =
        if (exprOf pat).isMatch name then .found .block else .none := by
  refine ⟨.pattern isMatch .default false, ?_, ?_⟩
  · rw [readLine, wildcardLine, parseLine_wildcard readers hpat hstar, compileWildcard, hnew]
    rfl
  · rw [← hregex _ _ _ (parse_wildcardSource hpat) hnew name]
    simp [ruleOutcome, ruleMatches, modifiersApply, classify, RuleModifiers.default,
      ParsedRule.modifiers, ParsedRule.isAllow]

/-- A list of wildcard rules blocks exactly the names that one of them matches,
its stars standing for any text and its dots for any character. -/
theorem wildcard_list_blocks {readers : Readers} (hregex : Regex.Conforms readers.regex)
    {pats : List Text} (hpats : ∀ pat ∈ pats, (∀ char ∈ pat, PatternChar char) ∧ '*' ∈ pat ∧
      ∃ isMatch, readers.regex (wildcardSource pat) = .ok isMatch)
    (domain : Text) (qtype : RecordType) (client : IpAddr) :
    (DnsFilter.build (readLine readers) [] [] (pats.map wildcardLine)).checkAction
        domain qtype client = .block ↔
      ∃ pat ∈ pats, Matches true (pat.map pieceOf) (normalize domain) := by
  have hlines : DnsFilter.linesOutcome domain qtype client (readLine readers)
      (pats.map wildcardLine) = if pats.any fun pat => (exprOf pat).isMatch (normalize domain)
        then .found .block else .none := by
    induction pats with
    | nil => rfl
    | cons pat pats ih =>
      obtain ⟨hpat, hstar, isMatch, hnew⟩ := hpats pat mem_cons_self
      obtain ⟨rule, hline, hrule⟩ :=
        outcome_wildcardLine hregex hpat hstar hnew (normalize domain) qtype client
      have hrest := ih fun pat hmem => hpats pat (mem_cons_of_mem _ hmem)
      unfold DnsFilter.linesOutcome at hrest ⊢
      rw [map_cons, filterMap_cons_some hline, map_cons, prod_cons, hrest, hrule]
      by_cases hmatch : (exprOf pat).isMatch (normalize domain) = true
      · simp only [any_cons, hmatch, Bool.true_or, if_true]
        split <;> rfl
      · simp only [any_cons, hmatch, Bool.false_or]
        rfl
  have hempty : (⟨[], [], []⟩ : DnsFilter).check domain qtype client = 1 := by
    simp [DnsFilter.check_eq_prod, setOutcome, matchesSubdomain_eq_any, MatchOutcome.none_eq_one]
  have hcheck : (DnsFilter.build (readLine readers) [] [] (pats.map wildcardLine)).check
      domain qtype client = _ :=
    DnsFilter.check_foldl domain qtype client (readLine readers) DnsFilter.addRule
      (fun _ => rfl) (DnsFilter.check_addRule domain qtype client) (pats.map wildcardLine)
      ⟨[], [], []⟩
  rw [hempty, one_mul, hlines] at hcheck
  have hmatch (pat : Text) : (exprOf pat).isMatch (normalize domain) = true ↔
      Matches true (pat.map pieceOf) (normalize domain) :=
    Regex.isMatch_iff_matches rfl rfl
  simp only [← hmatch, ← any_eq_true, DnsFilter.checkAction, hcheck]
  cases pats.any fun pat => (exprOf pat).isMatch (normalize domain) <;> simp [MatchKind.blocks]

theorem wildcard_list_blocks_ads :
    ∃ pat ∈ ["ads*".toList], Matches true (pat.map pieceOf) (normalize "ADS.net".toList) := by
  have hpat : ∀ char ∈ "ads*".toList, PatternChar char := patternChar_of_all (by decide +kernel)
  have hpats : ∀ pat ∈ ["ads*".toList], (∀ char ∈ pat, PatternChar char) ∧ '*' ∈ pat ∧
      ∃ isMatch, Readers.fragment.regex (wildcardSource pat) = .ok isMatch := by
    intro pat hmem
    obtain rfl := mem_singleton.mp hmem
    refine ⟨hpat, by decide, (exprOf "ads*".toList).isMatch, ?_⟩
    simp only [Readers.fragment, Regex.compile, parse_wildcardSource hpat]
  refine (wildcard_list_blocks (Regex.conforms_compile []) hpats "ADS.net".toList .a (.v4 0)).mp ?_
  decide +kernel

end Wardnet.Filter
