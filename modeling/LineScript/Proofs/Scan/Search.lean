import LineScript.Proofs.Scan.Nesting

/-! What the scanners find. A group with a nested body is cut off at its own closing
bracket, a string literal at its own quote, and a nested text without the wanted
characters at top level is passed over as a whole. Conversely what a scanner has cut
off tells how the text was nested. -/
namespace LineScript.Scan

open Depth (Passes Clear clear_start passes_append passes_inside passes_top passes_units
  after_nested after_units)

theorem closeFrom_append {depth : Depth} {text : Text}
    (passes : Passes (fun depth c => (depth.feed c).isTop) depth text) (rest : Text) :
    closeFrom depth (text ++ rest) = (closeFrom (depth.after text) rest).map
      fun (body, closer, tail) => (text ++ body, closer, tail) := by
  induction text generalizing depth with
  | nil => simp
  | cons c text ih =>
    have below : (depth.feed c).isTop = false := passes.1
    rw [List.cons_append, closeFrom, below, ih passes.2, Option.map_map]
    rfl

theorem group?_bracket (bracket : Bracket) {body : Text} (inner : Nested [] body) (rest : Text) :
    group? (bracket.opener :: body ++ [bracket.closer] ++ rest) =
      some ⟨bracket.opener, body, bracket.closer, rest⟩ := by
  obtain ⟨opened, within⟩ := clear_start.feed_opener bracket
  have through := passes_inside (fun _ _ below => below) opened within inner
  have top : (Depth.feed (Depth.feed {} bracket.opener) bracket.closer).isTop = true := by
    rw [clear_start.feed_opener_feed_closer]
    rfl
  rw [List.append_assoc, List.singleton_append, List.cons_append, group?]
  simp only [within, closeFrom_append through, after_nested opened inner, closeFrom, top]
  simp

theorem group?_quoted {body : Text} (units : Units body) (rest : Text) :
    group? ('"' :: body ++ ['"'] ++ rest) = some ⟨'"', body, '"', rest⟩ := by
  obtain ⟨quoted, unescaped⟩ := clear_start.feed_quote
  have through : Passes (fun depth c => (depth.feed c).isTop) (Depth.feed {} '"') body :=
    passes_units (fun _ _ still => Depth.isTop_of_inQuote still) quoted unescaped units
  have top : (Depth.feed (Depth.feed {} '"') '"').isTop = true := rfl
  rw [List.append_assoc, List.singleton_append, List.cons_append, group?]
  simp only [Depth.isTop_of_inQuote quoted, closeFrom_append through,
    after_units quoted unescaped units, closeFrom, top]
  simp

theorem group?_of_not_mem_marks {c : Char} (unmarked : c ∉ marks) (text : Text) :
    group? (c :: text) = none := by
  have top : (Depth.feed {} c).isTop = true := by
    rw [Depth.feed_of_not_mem_marks rfl unmarked]
    rfl
  simp [group?, top]

theorem opener_of_group? {c : Char} {text : Text} {group : Group}
    (found : group? (c :: text) = some group) : group.opener = c := by
  have whole := eq_of_group? found
  simp only [List.cons_append, List.cons.injEq] at whole
  exact whole.1.symm

theorem enclosed?_eq_some {opener : Char} {text : Text} {group : Group}
    (found : group? text = some group) (same : group.opener = opener) (ends : group.rest = []) :
    enclosed? opener text = some group.body := by
  simp [enclosed?, found, same, ends]

theorem exists_enclosed? {opener : Char} {text : Text} (opened : text.head? = some opener)
    (enclosed : isEnclosed text = true) : ∃ body, enclosed? opener text = some body := by
  cases found : group? text with
  | none => simp [isEnclosed, found] at enclosed
  | some group =>
    have ends : group.rest = [] := by simpa [isEnclosed, found] using enclosed
    have same : group.opener = opener := by simpa [eq_of_group? found] using opened
    exact ⟨group.body, enclosed?_eq_some found same ends⟩

theorem enclosed?_eq_none_of_rest {text : Text} {group : Group}
    (found : group? text = some group) (more : group.rest ≠ []) (opener : Char) :
    enclosed? opener text = none := by
  simp [enclosed?, found, more]

theorem enclosed?_eq_none_of_head {opener c : Char} (other : c ≠ opener) (text : Text) :
    enclosed? opener (c :: text) = none := by
  unfold enclosed?
  split
  next group found => rw [opener_of_group? found, if_neg (by simp [other])]
  next => rfl

theorem enclosed?_nil (opener : Char) : enclosed? opener [] = none := rfl

theorem enclosed?_nested_append {avoid text : Text} (nested : Nested avoid text)
    (nonempty : text ≠ []) {rest : Text} (more : rest ≠ []) (opener : Char) :
    enclosed? opener (text ++ rest) = none := by
  cases nested with
  | nil => exact absurd rfl nonempty
  | plain unmarked _ _ => rw [List.cons_append, enclosed?, group?_of_not_mem_marks unmarked]
  | @quoted _ body tail units _ =>
    have found := group?_quoted units (tail ++ rest)
    simp only [List.cons_append, List.append_assoc, List.nil_append] at found ⊢
    exact enclosed?_eq_none_of_rest found (by simp [more]) opener
  | @group _ body tail bracket inner _ =>
    have found := group?_bracket bracket inner (tail ++ rest)
    simp only [List.cons_append, List.append_assoc, List.nil_append] at found ⊢
    exact enclosed?_eq_none_of_rest found (by simp [more]) opener

theorem splitFrom_append {delimiter : Char} {depth : Depth} {text : Text}
    (passes : Passes (fun depth c => depth.keepsTop c && c == delimiter) depth text)
    (rest : Text) :
    splitFrom delimiter depth (text ++ rest) =
      (splitFrom delimiter (depth.after text) rest).modifyHead (text ++ ·) := by
  induction text generalizing depth with
  | nil => exact (congrFun List.modifyHead_id _).symm
  | cons c text ih =>
    have kept : (depth.keepsTop c && c == delimiter) = false := passes.1
    simp only [List.cons_append, splitFrom, kept, ih passes.2, Bool.false_eq_true, if_false,
      Depth.after_cons, List.modifyHead_modifyHead]
    rfl

theorem splitFrom_nested {delimiter : Char} {text : Text} (nested : Nested [delimiter] text)
    (rest : Text) :
    splitFrom delimiter {} (text ++ rest) =
      (splitFrom delimiter {} rest).modifyHead (text ++ ·) := by
  have passes : Passes (fun depth c => depth.keepsTop c && c == delimiter) {} text := by
    refine passes_top (fun depth c quiet => ?_) nested
    rcases quiet with below | other
    · rw [below, Bool.false_and]
    · rw [beq_false_of_ne (by simpa using other), Bool.and_false]
  rw [splitFrom_append passes, after_nested clear_start nested]

theorem split_nested {delimiter : Char} {text : Text} (nested : Nested [delimiter] text) :
    split delimiter text = [text] := by
  have whole := splitFrom_nested nested []
  rw [List.append_nil] at whole
  simpa [split, splitFrom] using whole

theorem keepsTop_start {c : Char} (unmarked : c ∉ marks) :
    Depth.keepsTop {} c = true := by
  rw [Depth.keepsTop, Depth.feed_of_not_mem_marks rfl unmarked]
  rfl

theorem passes_of_topLevelFrom {avoid : Text} {depth : Depth} {offset : Nat} {text : Text}
    (free : ∀ place ∈ topLevelFrom depth offset text, place.2 ∉ avoid) :
    Passes (fun depth c => depth.keepsTop c && decide (c ∈ avoid)) depth text := by
  induction text generalizing depth offset with
  | nil => trivial
  | cons c rest ih =>
    rw [topLevelFrom] at free
    by_cases top : depth.keepsTop c
    · simp only [top, if_true, List.forall_mem_cons] at free
      exact ⟨by simp [free.1], ih free.2⟩
    · simp only [top, Bool.false_eq_true, if_false] at free
      exact ⟨by simp [top], ih free⟩

theorem Nested.avoiding {fewer avoid text : Text} (nested : Nested fewer text)
    (passes : Passes (fun depth c => depth.keepsTop c && decide (c ∈ avoid)) {} text) :
    Nested avoid text := by
  induction nested with
  | nil => exact .nil
  | @plain _ c rest unmarked _ _ ih =>
    have here : (Depth.keepsTop {} c && decide (c ∈ avoid)) = false := passes.1
    have later := passes.2
    rw [keepsTop_start unmarked, Bool.true_and, decide_eq_false_iff_not] at here
    rw [Depth.feed_of_not_mem_marks rfl unmarked] at later
    exact .plain unmarked here (ih later)
  | @quoted _ body rest units _ ih =>
    have literal : Nested [] ('"' :: body ++ ['"']) := .quote units
    rw [List.append_cons] at passes
    have later := (passes_append.1 passes).2
    rw [after_nested clear_start literal] at later
    exact .quoted units (ih later)
  | @group _ body rest bracket inner _ _ ih =>
    have whole : Nested [] (bracket.opener :: body ++ [bracket.closer]) := .enclose bracket inner
    rw [List.append_cons] at passes
    have later := (passes_append.1 passes).2
    rw [after_nested clear_start whole] at later
    exact .group bracket inner (ih later)

theorem split_delimiter {delimiter : Char} (unmarked : delimiter ∉ marks) {text : Text}
    (nested : Nested [delimiter] text) (rest : Text) :
    split delimiter (text ++ delimiter :: rest) = text :: split delimiter rest := by
  rw [split, splitFrom_nested nested, splitFrom, keepsTop_start unmarked,
    Depth.feed_of_not_mem_marks rfl unmarked]
  simp [split]

theorem intercalate_split (delimiter : Char) (text : Text) :
    [delimiter].intercalate (split delimiter text) = text := by
  suffices ∀ depth, [delimiter].intercalate (splitFrom delimiter depth text) = text ∧
      splitFrom delimiter depth text ≠ [] from (this {}).1
  induction text with
  | nil => simp [splitFrom]
  | cons c rest ih =>
    intro depth
    obtain ⟨joined, nonempty⟩ := ih (depth.feed c)
    obtain ⟨first, others, parts⟩ := List.exists_cons_of_ne_nil nonempty
    rw [parts] at joined
    simp only [splitFrom, parts]
    split
    next here =>
      have same : c = delimiter := by simpa using (Bool.and_eq_true_iff.1 here).2
      refine ⟨?_, by simp⟩
      rw [List.intercalate_cons_cons, joined, same]
      rfl
    next =>
      refine ⟨?_, by simp⟩
      cases others with
      | nil => simpa using joined
      | cons second others =>
        simp only [List.modifyHead_cons, List.intercalate_cons_cons] at joined ⊢
        simp [← joined]

def Occurrence.prepend (front : Text) (found : Occurrence) : Occurrence :=
  { found with before := front ++ found.before }

theorem Occurrence.prepend_prepend (a b : Text) (found : Option Occurrence) :
    (found.map (Occurrence.prepend b)).map (Occurrence.prepend a) =
      found.map (Occurrence.prepend (a ++ b)) := by
  rw [Option.map_map]
  congr 1
  funext occurrence
  simp [Occurrence.prepend]

theorem findFrom_append_of_missing {patterns : List Text} {depth : Depth} {text rest : Text}
    (missing : ∀ front c back, text = front ++ c :: back → (depth.after front).keepsTop c →
      matchFirst? patterns (c :: (back ++ rest)) = none) :
    findFrom patterns depth (text ++ rest) =
      (findFrom patterns (depth.after text) rest).map (Occurrence.prepend text) := by
  induction text generalizing depth with
  | nil => exact Option.map_id'.symm
  | cons c text ih =>
    have later := @ih (depth.feed c) fun front d back whole top =>
      missing (c :: front) d back (by rw [whole]; rfl) top
    have here : (if depth.keepsTop c then matchFirst? patterns (c :: (text ++ rest)) else none) =
        none := by
      split
      next top => exact missing [] c text rfl top
      next => rfl
    rw [List.cons_append, findFrom]
    simp only [here, later, Option.map_map, Depth.after_cons]
    rfl

theorem findFrom_append {patterns : List Text} {avoid : Text}
    (starts : ∀ c rest, c ∉ avoid → matchFirst? patterns (c :: rest) = none)
    {depth : Depth} {text : Text}
    (passes : Passes (fun depth c => depth.keepsTop c && decide (c ∈ avoid)) depth text)
    (rest : Text) :
    findFrom patterns depth (text ++ rest) =
      (findFrom patterns (depth.after text) rest).map (Occurrence.prepend text) := by
  refine findFrom_append_of_missing fun front c back whole top => starts c _ ?_
  rw [whole, passes_append] at passes
  simpa [top] using passes.2.1

theorem find?_nested {patterns : List Text} {avoid : Text}
    (starts : ∀ c rest, c ∉ avoid → matchFirst? patterns (c :: rest) = none)
    {text : Text} (nested : Nested avoid text) (rest : Text) :
    find? patterns (text ++ rest) = (find? patterns rest).map (Occurrence.prepend text) := by
  have passes : Passes (fun depth c => depth.keepsTop c && decide (c ∈ avoid)) {} text := by
    refine passes_top (fun depth c quiet => ?_) nested
    rcases quiet with below | other
    · rw [below, Bool.false_and]
    · rw [decide_eq_false other, Bool.and_false]
  rw [find?, findFrom_append starts passes, after_nested clear_start nested, find?]

theorem find?_here {patterns : List Text} {c : Char} (unmarked : c ∉ marks)
    {rest pattern after : Text} (found : matchFirst? patterns (c :: rest) = some (pattern, after)) :
    find? patterns (c :: rest) = some ⟨[], pattern, after⟩ := by
  simp only [find?, findFrom, keepsTop_start unmarked, found, if_true]

theorem find?_later {patterns : List Text} {c : Char} (unmarked : c ∉ marks) {rest : Text}
    (missing : matchFirst? patterns (c :: rest) = none) :
    find? patterns (c :: rest) = (find? patterns rest).map (Occurrence.prepend [c]) := by
  have same : Depth.feed {} c = {} := Depth.feed_of_not_mem_marks rfl unmarked
  simp only [find?, findFrom, keepsTop_start unmarked, missing, if_true, same]
  rfl

theorem closeFrom_eq_some_iff {depth : Depth} {text body tail : Text} {closer : Char} :
    closeFrom depth text = some (body, closer, tail) ↔
      text = body ++ closer :: tail ∧ Passes (fun depth c => (depth.feed c).isTop) depth body ∧
        ((depth.after body).feed closer).isTop = true := by
  constructor
  · intro found
    refine ⟨eq_of_closeFrom found, ?_⟩
    induction text generalizing depth body with
    | nil => simp [closeFrom] at found
    | cons c rest ih =>
      rw [closeFrom] at found
      split at found
      next top =>
        simp only [Option.some.injEq, Prod.mk.injEq] at found
        obtain ⟨rfl, rfl, rfl⟩ := found
        exact ⟨trivial, top⟩
      next below =>
        simp only [Option.map_eq_some_iff, Prod.exists, Prod.mk.injEq] at found
        obtain ⟨_, _, _, inner, rfl, rfl, rfl⟩ := found
        obtain ⟨passes, top⟩ := ih inner
        exact ⟨⟨by simpa using below, passes⟩, top⟩
  · rintro ⟨rfl, passes, top⟩
    rw [closeFrom_append passes, closeFrom, if_pos top]
    simp

theorem closeFrom_of_group? {text : Text} {group : Group} (found : group? text = some group) :
    ∃ rest, closeFrom (Depth.feed {} group.opener) rest =
      some (group.body, group.closer, group.rest) := by
  cases text with
  | nil => simp [group?] at found
  | cons c rest =>
    rw [group?] at found
    split at found
    · simp at found
    · simp only [Option.map_eq_some_iff, Prod.exists] at found
      obtain ⟨_, _, _, closed, rfl⟩ := found
      exact ⟨rest, closed⟩

theorem Bracket.eq_closer_of_isTop (bracket : Bracket) {c : Char}
    (top : (Depth.feed (Depth.feed {} bracket.opener) c).isTop = true) : c = bracket.closer := by
  cases bracket <;>
    simp only [Bracket.opener, Depth.feed, Depth.feedPlain, Bool.false_eq_true, if_false] at top <;>
    split at top <;>
    simp_all [Depth.isTop, Bracket.closer]

theorem closer_of_group? {text : Text} {group : Group} (found : group? text = some group)
    {bracket : Bracket} (opens : group.opener = bracket.opener) (inner : Nested [] group.body) :
    group.closer = bracket.closer := by
  obtain ⟨_, closed⟩ := closeFrom_of_group? found
  obtain ⟨_, _, top⟩ := closeFrom_eq_some_iff.1 closed
  rw [opens, after_nested (clear_start.feed_opener bracket).1 inner] at top
  exact bracket.eq_closer_of_isTop top

theorem closer_of_nested {avoid text : Text} (nested : Nested avoid text) {group : Group}
    (found : group? text = some group) {bracket : Bracket}
    (opens : group.opener = bracket.opener) : group.closer = bracket.closer := by
  cases nested with
  | nil => cases found
  | plain unmarked _ _ =>
    rw [group?_of_not_mem_marks unmarked] at found
    cases found
  | quoted =>
    rw [opener_of_group? found] at opens
    cases bracket <;> cases opens
  | @group _ body rest other inner _ =>
    have cut := group?_bracket other inner rest
    rw [List.append_assoc, List.singleton_append, found] at cut
    cases cut
    have same : other = bracket := by cases other <;> cases bracket <;> simp_all [Bracket.opener]
    rw [same]

theorem closeFrom_below {depth : Depth} {c : Char} (below : (depth.feed c).isTop = false)
    {rest body tail : Text} {closer : Char}
    (found : closeFrom depth (c :: rest) = some (body, closer, tail)) :
    ∃ inner, body = c :: inner ∧ closeFrom (depth.feed c) rest = some (inner, closer, tail) := by
  rw [closeFrom, below] at found
  simp only [Bool.false_eq_true, if_false, Option.map_eq_some_iff, Prod.exists,
    Prod.mk.injEq] at found
  obtain ⟨inner, _, _, later, rfl, rfl, rfl⟩ := found
  exact ⟨inner, rfl, later⟩

/-- From inside a string literal the scan is back at top level exactly at the quote
that ends it. -/
theorem units_of_closeFrom {text body tail : Text} {closer : Char}
    (found : closeFrom { inQuote := true } text = some (body, closer, tail)) :
    Units body ∧ closer = '"' := by
  -- After a backslash the scan is one character away from the state of the statement.
  suffices ∀ body : Text,
      (closeFrom { inQuote := true } text = some (body, closer, tail) →
        Units body ∧ closer = '"') ∧
      (closeFrom { inQuote := true, escaped := true } text = some (body, closer, tail) →
        (∃ c rest, body = c :: rest ∧ Units rest) ∧ closer = '"') from (this body).1 found
  clear found body
  induction text with
  | nil => simp [closeFrom]
  | cons c rest ih =>
    refine fun body => ⟨fun found => ?_, fun found => ?_⟩
    · by_cases quote : c = '"'
      · subst quote
        have here : closeFrom { inQuote := true } ('"' :: rest) = some ([], '"', rest) := rfl
        rw [here] at found
        cases found
        exact ⟨.nil, rfl⟩
      · by_cases slash : c = '\\'
        · subst slash
          obtain ⟨inner, rfl, later⟩ := closeFrom_below (by rfl) found
          obtain ⟨⟨d, others, rfl, units⟩, closes⟩ := (ih inner).2 later
          exact ⟨.escape d units, closes⟩
        · have same : Depth.feed { inQuote := true } c = { inQuote := true } :=
            Depth.feed_of_quoted rfl rfl quote slash
          obtain ⟨inner, rfl, later⟩ := closeFrom_below (by rw [same]; rfl) found
          rw [same] at later
          obtain ⟨units, closes⟩ := (ih inner).1 later
          exact ⟨.plain quote slash units, closes⟩
    · have back : Depth.feed { inQuote := true, escaped := true } c = { inQuote := true } :=
        @Depth.feed_slash_feed { inQuote := true } rfl rfl c
      obtain ⟨inner, rfl, later⟩ := closeFrom_below (by rw [back]; rfl) found
      rw [back] at later
      obtain ⟨units, closes⟩ := (ih inner).1 later
      exact ⟨⟨c, inner, rfl, units⟩, closes⟩

theorem units_of_group? {text : Text} {group : Group} (found : group? text = some group)
    (opens : group.opener = '"') : Units group.body ∧ group.closer = '"' := by
  obtain ⟨_, closed⟩ := closeFrom_of_group? found
  rw [opens] at closed
  exact units_of_closeFrom closed

theorem group?_of_enclosed? {opener : Char} {text body : Text}
    (found : enclosed? opener text = some body) :
    ∃ closer, group? text = some ⟨opener, body, closer, []⟩ := by
  rw [enclosed?] at found
  split at found
  next group opened =>
    split at found
    next whole =>
      obtain ⟨first, body, closer, rest⟩ := group
      obtain ⟨rfl, rfl⟩ := whole
      cases found
      exact ⟨closer, opened⟩
    next => cases found
  next => cases found

theorem enclosed?_eq_some_iff {opener : Char} (opens : (Depth.feed {} opener).isTop = false)
    {text body : Text} : enclosed? opener text = some body ↔
      ∃ closer, text = opener :: body ++ [closer] ∧
        Passes (fun depth c => (depth.feed c).isTop) (Depth.feed {} opener) body ∧
        (((Depth.feed {} opener).after body).feed closer).isTop = true := by
  constructor
  · intro found
    obtain ⟨closer, opened⟩ := group?_of_enclosed? found
    obtain ⟨_, closed⟩ := closeFrom_of_group? opened
    exact ⟨closer, eq_of_group? opened, (closeFrom_eq_some_iff.1 closed).2⟩
  · rintro ⟨closer, rfl, closes⟩
    have closed : closeFrom (Depth.feed {} opener) (body ++ [closer]) = some (body, closer, []) :=
      closeFrom_eq_some_iff.2 ⟨rfl, closes⟩
    have opened : group? (opener :: body ++ [closer]) = some ⟨opener, body, closer, []⟩ := by
      simp [group?, opens, closed]
    exact enclosed?_eq_some opened rfl rfl

theorem splitFrom_of_closeFrom {depth : Depth} {text body : Text} {closer : Char}
    (closes : closeFrom depth text = some (body, closer, [])) (inside : depth.isTop = false)
    (delimiter : Char) : splitFrom delimiter depth text = [text] := by
  induction text generalizing depth body with
  | nil => cases closes
  | cons c rest ih =>
    have below : depth.keepsTop c = false := by rw [Depth.keepsTop, inside, Bool.false_and]
    rw [closeFrom] at closes
    rw [splitFrom, below, Bool.false_and, if_neg Bool.false_ne_true]
    split at closes
    next =>
      simp only [Option.some.injEq, Prod.mk.injEq] at closes
      rw [closes.2.2, splitFrom]
      rfl
    next deeper =>
      obtain ⟨⟨inner, last, tail⟩, found, same⟩ := Option.map_eq_some_iff.1 closes
      cases same
      rw [ih found (by simpa using deeper)]
      rfl

theorem splitFrom_of_enclosed? {opener : Char} {text body : Text}
    (found : enclosed? opener text = some body) (delimiter : Char) :
    splitFrom delimiter {} text = [text] := by
  obtain ⟨closer, group⟩ := group?_of_enclosed? found
  cases text with
  | nil => cases group
  | cons c rest =>
    rw [group?] at group
    split at group
    next => cases group
    next deeper =>
      obtain ⟨⟨inner, last, tail⟩, closes, same⟩ := Option.map_eq_some_iff.1 group
      cases same
      have inside : (Depth.feed {} opener).isTop = false := by simpa using deeper
      have below : Depth.keepsTop {} opener = false := by
        rw [Depth.keepsTop, inside, Bool.and_false]
      rw [splitFrom, splitFrom_of_closeFrom closes inside, below, Bool.false_and,
        if_neg Bool.false_ne_true]
      rfl

theorem eq_of_enclosed? (bracket : Bracket) {text body : Text}
    (found : enclosed? bracket.opener text = some body) (inner : Nested [] body) :
    text = bracket.opener :: body ++ [bracket.closer] := by
  obtain ⟨closer, opened⟩ := group?_of_enclosed? found
  have whole := eq_of_group? opened
  have matching : closer = bracket.closer := closer_of_group? opened rfl inner
  rwa [matching] at whole

theorem nested_of_enclosed? (bracket : Bracket) {text body : Text}
    (found : enclosed? bracket.opener text = some body) (inner : Nested [] body) :
    Nested [] text := by
  rw [eq_of_enclosed? bracket found inner]
  exact .enclose bracket inner

theorem nested_intercalate {delimiter : Char} (unmarked : delimiter ∉ marks)
    {parts : List Text} (nested : ∀ part ∈ parts, Nested [] part) :
    Nested [] ([delimiter].intercalate parts) := by
  induction parts with
  | nil => exact .nil
  | cons first others ih =>
    rw [List.forall_mem_cons] at nested
    cases others with
    | nil => simpa using nested.1
    | cons second others =>
      rw [List.intercalate_cons_cons]
      exact (nested.1.append (.plain unmarked (by simp) .nil)).append (ih nested.2)

theorem nested_of_split {delimiter : Char} (unmarked : delimiter ∉ marks) {text : Text}
    (nested : ∀ part ∈ split delimiter text, Nested [] part) : Nested [] text := by
  rw [← intercalate_split delimiter text]
  exact nested_intercalate unmarked nested

theorem nested_of_find? {patterns : List Text} {text : Text} {found : Occurrence}
    (here : find? patterns text = some found)
    (plain : ∀ pattern ∈ patterns, Nested [] pattern) (before : Nested [] found.before)
    (after : Nested [] found.after) : Nested [] text := by
  obtain ⟨member, whole⟩ := eq_of_find? here
  rw [whole]
  exact (before.append (plain _ member)).append after

end LineScript.Scan
