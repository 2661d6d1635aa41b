import ScriptOutline.Proofs.Json.Rereading

/-!
# Reading written text

The reader follows the text that the writer has made: after a bracket it finds an item or the closing
bracket, after an item a comma or the closing bracket, and blanks in between do not matter to it. So it
reads what `Json.reread` says, unless the value is nested deeper than it may follow: then it comes to
the first bracket that it may not open and says that the text is nested too deep.
-/

namespace ScriptOutline

namespace Json

/-- A layout that puts nothing but blanks between the parts. -/
structure Layout.IsBlank (layout : Layout) : Prop where
  gap (level : Nat) : ∀ c ∈ layout.gap level, isBlank c = true
  space : ∀ c ∈ layout.space, isBlank c = true

theorem Layout.tight_isBlank : Layout.tight.IsBlank := ⟨fun _ => nofun, nofun⟩

theorem Layout.indented_isBlank : Layout.indented.IsBlank where
  gap level c hc := by
    rcases List.mem_cons.1 hc with rfl | hc
    · rfl
    · rw [List.eq_of_mem_replicate hc]
      rfl
  space c hc := by
    rw [List.mem_singleton.1 hc]
    rfl

/-! ## Blanks and what stands between parts -/

variable {blanks : List Char}

theorem skipBlanks_append (h : ∀ c ∈ blanks, isBlank c = true) (cs : List Char) :
    skipBlanks (blanks ++ cs) = skipBlanks cs :=
  List.dropWhile_append_of_pos h

theorem skipBlanks_cons {c : Char} (h : isBlank c = false) (cs : List Char) :
    skipBlanks (c :: cs) = c :: cs :=
  List.dropWhile_cons_of_neg (by rw [h]; decide)

theorem skipBlanks_to {c : Char} (h : ∀ c ∈ blanks, isBlank c = true) (hc : isBlank c = false)
    (cs : List Char) : skipBlanks (blanks ++ c :: cs) = c :: cs := by
  rw [skipBlanks_append h, skipBlanks_cons hc]

theorem not_number_of_isBlank {c : Char} (h : isBlank c = true) :
    c.isDigit = false ∧ c ≠ '.' ∧ c ≠ 'e' ∧ c ≠ 'E' := by
  simp only [isBlank, Bool.or_eq_true, beq_iff_eq] at h
  rcases h with ((rfl | rfl) | rfl) | rfl <;> decide

/-- Blanks do not continue a number, and neither does what may stand after them. -/
theorem endsNumber_blanks (h : ∀ c ∈ blanks, isBlank c = true) {rest : List Char}
    (hrest : EndsNumber rest) : EndsNumber (blanks ++ rest) := by
  cases blanks with
  | nil => exact hrest
  | cons b blanks => exact endsNumber_cons (not_number_of_isBlank (h b List.mem_cons_self))

/-- The characters with which a value begins. -/
def StartsValue (c : Char) : Prop := isBlank c = false ∧ c ≠ ']' ∧ c ≠ ','

theorem nextItem_first {c : Char} (h : ∀ c ∈ blanks, isBlank c = true) (hc : StartsValue c)
    (cs : List Char) : nextItem .value true (blanks ++ c :: cs) = .ok (true, c :: cs) := by
  rw [nextItem, skipBlanks_to h hc.1]
  split
  · next heq => exact absurd (List.cons.inj heq).1 hc.2.1
  · next heq => cases heq
  · next heq => exact absurd (List.cons.inj heq).1 hc.2.2
  · rfl

theorem nextItem_comma {c : Char} (h : ∀ c ∈ blanks, isBlank c = true) (hc : StartsValue c)
    (cs : List Char) : nextItem .value false (',' :: (blanks ++ c :: cs)) = .ok (true, c :: cs) := by
  rw [nextItem, skipBlanks_cons (by decide)]
  simp only [Bool.false_eq_true, if_false]
  rw [skipBlanks_to h hc.1]
  split
  · next heq => exact absurd (List.cons.inj heq).1 hc.2.1
  · next heq => cases heq
  · rfl

theorem nextItem_close (h : ∀ c ∈ blanks, isBlank c = true) (first : Bool) (cs : List Char) :
    nextItem .value first (blanks ++ ']' :: cs) = .ok (false, cs) := by
  rw [nextItem, skipBlanks_to h (by decide)]
  rfl

theorem nextKey_first (h : ∀ c ∈ blanks, isBlank c = true) (cs : List Char) :
    nextKey .value true (blanks ++ '"' :: cs) = .ok (true, cs) := by
  rw [nextKey, skipBlanks_to h (by decide)]
  rfl

theorem nextKey_comma (h : ∀ c ∈ blanks, isBlank c = true) (cs : List Char) :
    nextKey .value false (',' :: (blanks ++ '"' :: cs)) = .ok (true, cs) := by
  rw [nextKey, skipBlanks_cons (by decide)]
  simp only [Bool.false_eq_true, if_false]
  rw [skipBlanks_to h (by decide)]
  rfl

theorem nextKey_close (h : ∀ c ∈ blanks, isBlank c = true) (first : Bool) (cs : List Char) :
    nextKey .value first (blanks ++ '}' :: cs) = .ok (false, cs) := by
  rw [nextKey, skipBlanks_to h (by decide)]
  rfl

theorem colon_cons (cs : List Char) : colon (':' :: cs) = .ok ((), cs) := rfl

/-! ## How written text begins -/

theorem signedNumber_start {cs : List Char} {m : JsonNumber} {r : List Char}
    (h : signedNumber .value cs = .ok (m, r)) :
    ∃ c cs', cs = c :: cs' ∧ (c = '-' ∨ c.isDigit = true) := by
  cases cs with
  | nil => cases h
  | cons c cs =>
    refine ⟨c, cs, rfl, ?_⟩
    by_cases hminus : c = '-'
    · exact .inl hminus
    · right
      by_contra hdigit
      have hzero : c ≠ '0' := by
        rintro rfl
        exact hdigit (by decide)
      rw [signedNumber_plain hminus, numberText.eq_4 _ _ _ _ hzero, if_pos (by simp [hdigit])] at h
      cases h

theorem startsValue_of_digit {c : Char} (h : c.isDigit = true) : StartsValue c := by
  refine ⟨?_, ?_, ?_⟩
  · by_contra hblank
    simp only [Bool.not_eq_false, isBlank, Bool.or_eq_true, beq_iff_eq] at hblank
    rcases hblank with ((rfl | rfl) | rfl) | rfl <;> exact absurd h (by decide)
  · rintro rfl
    exact absurd h (by decide)
  · rintro rfl
    exact absurd h (by decide)

/-- A written value begins like a value. -/
theorem write_start (layout : Layout) (level : Nat) {v : Json} (hv : v.isRead = true) :
    ∃ c cs, v.write layout level = c :: cs ∧ StartsValue c := by
  have hstart : ∀ c ∈ ['n', 't', 'f', '"', '[', '{', '-'], StartsValue c := by
    intro c hc
    simp only [List.mem_cons, List.not_mem_nil, or_false] at hc
    rcases hc with rfl | rfl | rfl | rfl | rfl | rfl | rfl <;> exact ⟨rfl, by decide, by decide⟩
  cases v with
  | null => exact ⟨'n', _, rfl, hstart 'n' (by decide)⟩
  | boolean b =>
    cases b with
    | false => exact ⟨'f', _, rfl, hstart 'f' (by decide)⟩
    | true => exact ⟨'t', _, rfl, hstart 't' (by decide)⟩
  | number n =>
    rw [isRead] at hv
    obtain ⟨c, cs, htext, hc⟩ := signedNumber_start (JsonNumber.signedNumber_text hv)
    refine ⟨c, cs, by rw [write, htext], ?_⟩
    rcases hc with rfl | hc
    · exact hstart '-' (by decide)
    · exact startsValue_of_digit hc
  | string s => exact ⟨'"', _, by rw [write, quoted], hstart '"' (by decide)⟩
  | array items =>
    cases items with
    | nil => exact ⟨'[', _, rfl, hstart '[' (by decide)⟩
    | cons v rest => exact ⟨'[', _, by rw [write], hstart '[' (by decide)⟩
  | object members =>
    cases members with
    | nil => exact ⟨'{', _, by rw [write], hstart '{' (by decide)⟩
    | cons member rest => exact ⟨'{', _, by rw [write], hstart '{' (by decide)⟩

theorem endsNumber_writeItems {layout : Layout} (hl : layout.IsBlank) (level : Nat)
    (items : List Json) (rest : List Char) : EndsNumber (writeItems layout level items ++ rest) := by
  cases items with
  | nil =>
    rw [writeItems, List.append_assoc]
    exact endsNumber_blanks (hl.gap level) (endsNumber_cons (by decide))
  | cons v more =>
    rw [writeItems]
    exact endsNumber_cons (by decide)

theorem endsNumber_writeMembers {layout : Layout} (hl : layout.IsBlank) (level : Nat)
    (members : List (String × Json)) (rest : List Char) :
    EndsNumber (writeMembers layout level members ++ rest) := by
  cases members with
  | nil =>
    rw [writeMembers, List.append_assoc]
    exact endsNumber_blanks (hl.gap level) (endsNumber_cons (by decide))
  | cons member more =>
    rw [writeMembers]
    exact endsNumber_cons (by decide)

/-! ## What reading comes to -/

/-- What reading a written part comes to: the part and the text after it if it fits, and otherwise
the complaint that the text is nested too deep. -/
def ComesTo {α : Type} (r : Read α) (fits : Prop) (a : α) (rest : List Char) : Prop :=
  fits ∧ r = .ok (a, rest) ∨ ¬fits ∧ ∃ f, r = .error f ∧ f.fault = .tooDeep

theorem value_blanks (h : ∀ c ∈ blanks, isBlank c = true) (fuel depth : Nat) (cs : List Char) :
    value .value (fuel + 1) depth (blanks ++ cs) = value .value (fuel + 1) depth cs := by
  rw [value, value, skipBlanks_append h]

theorem value_number {n : JsonNumber} {cs rest : List Char} (fuel depth : Nat)
    (h : signedNumber .value cs = .ok (n, rest)) :
    value .value (fuel + 1) depth cs = .ok (.number n, rest) := by
  obtain ⟨c, cs, rfl, rfl | hc⟩ := signedNumber_start h
  · rw [value, skipBlanks_cons (by decide)]
    simp only [h]
    rfl
  · rw [value, skipBlanks_cons (startsValue_of_digit hc).1]
    split
    case h_9 heq =>
      obtain ⟨rfl, rfl⟩ := List.cons.inj heq
      simp only [if_pos hc, h]
      rfl
    case h_1 heq => cases heq
    all_goals
      next heq =>
      obtain ⟨rfl, -⟩ := List.cons.inj heq
      exact absurd hc (by decide)

theorem value_string (s : String) (fuel depth : Nat) (rest : List Char) :
    value .value (fuel + 1) depth (quoted s ++ rest) = .ok (.string s, rest) := by
  obtain ⟨body, htext, hbody⟩ := stringBody_quoted s rest
  rw [htext, value, skipBlanks_cons (by decide)]
  simp only [hbody]
  rfl

/-- An array may be opened if there is a level left, and then its items decide. -/
theorem value_array {fuel depth : Nat} {body rest : List Char} {vs : List Json} {d : Nat}
    (h : 1 < depth → ComesTo (items .value fuel (depth - 1) true body) (d < depth - 1) vs rest) :
    ComesTo (value .value (fuel + 1) depth ('[' :: body)) (1 + d < depth) (.array vs) rest := by
  rw [value, skipBlanks_cons (by decide)]
  by_cases hdepth : 1 < depth
  · simp only [mayOpen, hdepth, decide_true, Bool.or_true, if_true]
    rcases h hdepth with ⟨hfits, hitems⟩ | ⟨hfits, f, hitems, hf⟩
    · exact .inl ⟨by omega, by rw [hitems]; rfl⟩
    · exact .inr ⟨by omega, f, by rw [hitems]; rfl, hf⟩
  · simp only [mayOpen, hdepth, decide_false, Bool.or_false]
    exact .inr ⟨by omega, _, rfl, rfl⟩

/-- An object may be opened if there is a level left, and then its members decide. -/
theorem value_object {fuel depth : Nat} {body rest : List Char} {ms : Members} {d : Nat}
    (h : 1 < depth →
      ComesTo (members .value fuel (depth - 1) true [] body) (d < depth - 1) ms rest) :
    ComesTo (value .value (fuel + 1) depth ('{' :: body)) (1 + d < depth) (.object ms) rest := by
  rw [value, skipBlanks_cons (by decide)]
  by_cases hdepth : 1 < depth
  · simp only [mayOpen, hdepth, decide_true, Bool.or_true, if_true]
    rcases h hdepth with ⟨hfits, hmembers⟩ | ⟨hfits, f, hmembers, hf⟩
    · exact .inl ⟨by omega, by rw [hmembers]; rfl⟩
    · exact .inr ⟨by omega, f, by rw [hmembers]; rfl, hf⟩
  · simp only [mayOpen, hdepth, decide_false, Bool.or_false]
    exact .inr ⟨by omega, _, rfl, rfl⟩

theorem items_close {fuel depth : Nat} {first : Bool} {cs rest : List Char}
    (hnext : nextItem .value first cs = .ok (false, rest)) (hdepth : 0 < depth) :
    ComesTo (items .value (fuel + 1) depth first cs) (0 < depth) [] rest := by
  rw [items, hnext]
  exact .inl ⟨hdepth, rfl⟩

/-- The first item decides, and then the other ones. -/
theorem items_next {fuel depth : Nat} {first : Bool} {cs cs' rest rest' : List Char} {v : Json}
    {vs : List Json} {d e : Nat} (hnext : nextItem .value first cs = .ok (true, cs'))
    (hv : ComesTo (value .value fuel depth cs') (d < depth) v rest)
    (hvs : ComesTo (items .value fuel depth false rest) (e < depth) vs rest') :
    ComesTo (items .value (fuel + 1) depth first cs) (max d e < depth) (v :: vs) rest' := by
  rw [items, hnext]
  simp only [bind, Except.bind, if_true]
  rcases hv with ⟨hd, hv⟩ | ⟨hd, f, hv, hf⟩
  · simp only [hv]
    rcases hvs with ⟨he, hvs⟩ | ⟨he, f, hvs, hf⟩
    · exact .inl ⟨by omega, by rw [hvs]; rfl⟩
    · exact .inr ⟨by omega, f, by rw [hvs], hf⟩
  · exact .inr ⟨by omega, f, by rw [hv], hf⟩

theorem members_close {fuel depth : Nat} {first : Bool} {before : Members} {cs rest : List Char}
    (hnext : nextKey .value first cs = .ok (false, rest)) (hdepth : 0 < depth) :
    ComesTo (members .value (fuel + 1) depth first before cs) (0 < depth) before rest := by
  rw [members, hnext]
  exact .inl ⟨hdepth, rfl⟩

/-- The first member decides, and then the other ones. -/
theorem members_next {fuel depth : Nat} {first : Bool} {before ms : Members} {k : String}
    {cs body text rest rest' : List Char} {v : Json} {d e : Nat}
    (hnext : nextKey .value first cs = .ok (true, body))
    (hkey : stringBody .value (body.length + 1) [] body = .ok (k, ':' :: text))
    (hv : ComesTo (value .value fuel depth text) (d < depth) v rest)
    (hms : ComesTo (members .value fuel depth false (Members.put k v before) rest) (e < depth) ms
      rest') :
    ComesTo (members .value (fuel + 1) depth first before cs) (max d e < depth) ms rest' := by
  rw [members, hnext]
  simp only [bind, Except.bind, if_true, hkey, colon_cons]
  rcases hv with ⟨hd, hv⟩ | ⟨hd, f, hv, hf⟩
  · simp only [hv]
    rcases hms with ⟨he, hms⟩ | ⟨he, f, hms, hf⟩
    · exact .inl ⟨by omega, hms⟩
    · exact .inr ⟨by omega, f, hms, hf⟩
  · exact .inr ⟨by omega, f, by rw [hv], hf⟩

/-! ## Whole values -/

variable {layout : Layout}

/-- The text of a value takes at least one step. -/
theorem exists_fuel {v : Json} (hv : v.isRead = true) {level fuel : Nat}
    (h : (v.write layout level).length ≤ fuel) : ∃ n, fuel = n + 1 := by
  obtain ⟨c, cs, htext, -⟩ := write_start layout level hv
  rw [htext, List.length_cons] at h
  exact ⟨fuel - 1, by omega⟩

theorem writeItems_pos (layout : Layout) (level : Nat) (vs : List Json) :
    0 < (writeItems layout level vs).length := by
  cases vs <;> simp [writeItems]

theorem writeMembers_pos (layout : Layout) (level : Nat) (ms : List (String × Json)) :
    0 < (writeMembers layout level ms).length := by
  cases ms <;> simp [writeMembers]

mutual

/-- A written value is read back, unless it is nested too deep. -/
theorem value_write (hl : layout.IsBlank) : ∀ v : Json, v.isRead = true →
    ∀ (level fuel depth : Nat) (rest : List Char), 0 < depth →
      (v.write layout level).length ≤ fuel → EndsNumber rest →
      ComesTo (value .value fuel depth (v.write layout level ++ rest)) (v.depth < depth) v.reread
        rest
  | .null, hv, level, fuel, depth, rest, hdepth, hfuel, _ => by
    obtain ⟨n, rfl⟩ := exists_fuel hv hfuel
    exact .inl ⟨hdepth, rfl⟩
  | .boolean true, hv, level, fuel, depth, rest, hdepth, hfuel, _ => by
    obtain ⟨n, rfl⟩ := exists_fuel hv hfuel
    exact .inl ⟨hdepth, rfl⟩
  | .boolean false, hv, level, fuel, depth, rest, hdepth, hfuel, _ => by
    obtain ⟨n, rfl⟩ := exists_fuel hv hfuel
    exact .inl ⟨hdepth, rfl⟩
  | .number m, hv, level, fuel, depth, rest, hdepth, hfuel, hrest => by
    obtain ⟨n, rfl⟩ := exists_fuel hv hfuel
    rw [isRead] at hv
    rw [write, reread]
    exact .inl ⟨hdepth, value_number n depth
      (stable_signedNumber hrest (JsonNumber.signedNumber_text hv))⟩
  | .string s, hv, level, fuel, depth, rest, hdepth, hfuel, _ => by
    obtain ⟨n, rfl⟩ := exists_fuel hv hfuel
    rw [write]
    exact .inl ⟨hdepth, value_string s n depth rest⟩
  | .array [], _, level, fuel, depth, rest, _, hfuel, _ => by
    obtain ⟨n, rfl⟩ : ∃ n, fuel = n + 2 := ⟨fuel - 2, by simp [write] at hfuel; omega⟩
    have hclose : nextItem .value true (']' :: rest) = .ok (false, rest) := rfl
    exact value_array fun hopen => items_close hclose (by omega)
  | .array (v :: vs), hv, level, fuel, depth, rest, _, hfuel, _ => by
    simp only [isRead, itemsAreRead, Bool.and_eq_true] at hv
    obtain ⟨c, cs, hstart, hc⟩ := write_start layout (level + 1) hv.1
    have hlength := congrArg List.length hstart
    have hpos := writeItems_pos layout level vs
    simp only [write, List.length_cons, List.length_append] at hfuel hlength
    obtain ⟨n, rfl⟩ : ∃ n, fuel = n + 2 := ⟨fuel - 2, by omega⟩
    have hnext : nextItem .value true
        (layout.gap (level + 1) ++ (v.write layout (level + 1) ++
          (writeItems layout level vs ++ rest))) =
        .ok (true, v.write layout (level + 1) ++ (writeItems layout level vs ++ rest)) := by
      rw [hstart]
      exact nextItem_first (hl.gap (level + 1)) hc _
    rw [write, List.cons_append, List.append_assoc, List.append_assoc]
    refine value_array fun hopen => ?_
    have hfirst := value_write hl v hv.1 (level + 1) n (depth - 1)
      (writeItems layout level vs ++ rest) (by omega) (by omega)
      (endsNumber_writeItems hl level vs rest)
    have hmore := items_write hl vs hv.2 level n (depth - 1) rest (by omega) (by omega)
    exact items_next hnext hfirst hmore
  | .object [], _, level, fuel, depth, rest, _, hfuel, _ => by
    obtain ⟨n, rfl⟩ : ∃ n, fuel = n + 2 := ⟨fuel - 2, by simp [write] at hfuel; omega⟩
    have hclose : nextKey .value true ('}' :: rest) = .ok (false, rest) := rfl
    exact value_object fun hopen => members_close hclose (by omega)
  | .object ((k, v) :: ms), hv, level, fuel, depth, rest, _, hfuel, _ => by
    simp only [isRead, membersAreRead, Bool.and_eq_true] at hv
    obtain ⟨body, hkey, hbody⟩ := stringBody_quoted k (':' :: (layout.space ++
      (v.write layout (level + 1) ++ (writeMembers layout level ms ++ rest))))
    have hpos := writeMembers_pos layout level ms
    simp only [write, quoted, List.length_cons, List.length_append] at hfuel
    obtain ⟨n, rfl⟩ : ∃ n, fuel = n + 3 := ⟨fuel - 3, by omega⟩
    have htext : (Json.object ((k, v) :: ms)).write layout level ++ rest =
        '{' :: (layout.gap (level + 1) ++ '"' :: body) := by
      rw [write, ← hkey]
      simp
    rw [htext]
    refine value_object fun hopen => ?_
    have hfirst := value_write hl v hv.1 (level + 1) (n + 1) (depth - 1)
      (writeMembers layout level ms ++ rest) (by omega) (by omega)
      (endsNumber_writeMembers hl level ms rest)
    rw [← value_blanks hl.space] at hfirst
    have hmore := members_write hl ms hv.2 level (n + 1) (depth - 1)
      (Members.put k v.reread []) rest (by omega) (by omega)
    exact members_next (nextKey_first (hl.gap (level + 1)) body) hbody hfirst hmore

/-- Written items are read back, unless one of them is nested too deep. -/
theorem items_write (hl : layout.IsBlank) : ∀ vs : List Json, itemsAreRead vs = true →
    ∀ (level fuel depth : Nat) (rest : List Char), 0 < depth →
      (writeItems layout level vs).length ≤ fuel →
      ComesTo (items .value fuel depth false (writeItems layout level vs ++ rest))
        (depthItems vs < depth) (rereadItems vs) rest
  | [], _, level, fuel, depth, rest, hdepth, hfuel => by
    simp only [writeItems, List.length_append, List.length_singleton] at hfuel
    obtain ⟨n, rfl⟩ : ∃ n, fuel = n + 1 := ⟨fuel - 1, by omega⟩
    rw [writeItems, List.append_assoc]
    exact items_close (nextItem_close (hl.gap level) false rest) hdepth
  | v :: vs, hvs, level, fuel, depth, rest, hdepth, hfuel => by
    simp only [itemsAreRead, Bool.and_eq_true] at hvs
    obtain ⟨c, cs, hstart, hc⟩ := write_start layout (level + 1) hvs.1
    simp only [writeItems, List.length_cons, List.length_append] at hfuel
    obtain ⟨n, rfl⟩ : ∃ n, fuel = n + 1 := ⟨fuel - 1, by omega⟩
    have hnext : nextItem .value false
        (',' :: (layout.gap (level + 1) ++ (v.write layout (level + 1) ++
          (writeItems layout level vs ++ rest)))) =
        .ok (true, v.write layout (level + 1) ++ (writeItems layout level vs ++ rest)) := by
      rw [hstart]
      exact nextItem_comma (hl.gap (level + 1)) hc _
    rw [writeItems, List.cons_append, List.append_assoc, List.append_assoc]
    have hfirst := value_write hl v hvs.1 (level + 1) n depth
      (writeItems layout level vs ++ rest) hdepth (by omega)
      (endsNumber_writeItems hl level vs rest)
    have hmore := items_write hl vs hvs.2 level n depth rest hdepth (by omega)
    exact items_next hnext hfirst hmore

/-- Written members are read back and added to those read before, unless one of them is nested too
deep. -/
theorem members_write (hl : layout.IsBlank) : ∀ ms : List (String × Json),
    membersAreRead ms = true →
    ∀ (level fuel depth : Nat) (before : Members) (rest : List Char), 0 < depth →
      (writeMembers layout level ms).length ≤ fuel →
      ComesTo (members .value fuel depth false before (writeMembers layout level ms ++ rest))
        (depthMembers ms < depth) (rereadMembers before ms) rest
  | [], _, level, fuel, depth, before, rest, hdepth, hfuel => by
    simp only [writeMembers, List.length_append, List.length_singleton] at hfuel
    obtain ⟨n, rfl⟩ : ∃ n, fuel = n + 1 := ⟨fuel - 1, by omega⟩
    rw [writeMembers, List.append_assoc]
    exact members_close (nextKey_close (hl.gap level) false rest) hdepth
  | (k, v) :: ms, hms, level, fuel, depth, before, rest, hdepth, hfuel => by
    simp only [membersAreRead, Bool.and_eq_true] at hms
    obtain ⟨body, hkey, hbody⟩ := stringBody_quoted k (':' :: (layout.space ++
      (v.write layout (level + 1) ++ (writeMembers layout level ms ++ rest))))
    simp only [writeMembers, quoted, List.length_cons, List.length_append] at hfuel
    obtain ⟨n, rfl⟩ : ∃ n, fuel = n + 2 := ⟨fuel - 2, by omega⟩
    have htext : writeMembers layout level ((k, v) :: ms) ++ rest =
        ',' :: (layout.gap (level + 1) ++ '"' :: body) := by
      rw [writeMembers, ← hkey]
      simp
    rw [htext]
    have hfirst := value_write hl v hms.1 (level + 1) (n + 1) depth
      (writeMembers layout level ms ++ rest) hdepth (by omega)
      (endsNumber_writeMembers hl level ms rest)
    rw [← value_blanks hl.space] at hfirst
    have hmore := members_write hl ms hms.2 level (n + 1) depth
      (Members.put k v.reread before) rest hdepth (by omega)
    exact members_next (nextKey_comma (hl.gap (level + 1)) body) hbody hfirst hmore

end

/-! ## Whole texts -/

/-- The text of a value whose numbers are read, with blanks behind it, is read as what `reread` says,
or is found to be nested too deep. -/
theorem parse_write (hl : layout.IsBlank) {v : Json} (hv : v.isRead = true)
    (hblanks : ∀ c ∈ blanks, isBlank c = true) :
    v.depth < depthLimit ∧ parse (v.write layout 0 ++ blanks) = .ok v.reread ∨
      depthLimit ≤ v.depth ∧
        ∃ f, parse (v.write layout 0 ++ blanks) = .error f ∧ f.fault = .tooDeep := by
  have hends : EndsNumber blanks := by
    simpa using endsNumber_blanks hblanks endsNumber_nil
  have hend : skipBlanks blanks = [] := by
    simpa [skipBlanks] using skipBlanks_append hblanks []
  have hfuel : (v.write layout 0).length ≤ stepsFor (v.write layout 0 ++ blanks) := by
    rw [stepsFor, List.length_append]
    omega
  rcases value_write hl v hv 0 _ depthLimit blanks (by decide) hfuel hends with
    ⟨hfits, hread⟩ | ⟨hfits, f, hread, hf⟩
  · refine .inl ⟨hfits, ?_⟩
    rw [parse, hread]
    simp only [bind, Except.bind, atEnd, hend]
    rfl
  · refine .inr ⟨Nat.not_lt.1 hfits, f, ?_, hf⟩
    rw [parse, hread]
    rfl

/-- The text of a value on one line, if it is not nested too deep. -/
theorem parse_compact {v : Json} (hv : v.isRead = true) (hdepth : v.depth < depthLimit) :
    parse v.compact = .ok v.reread := by
  have hblanks : ∀ c ∈ ([] : List Char), isBlank c = true := nofun
  rcases parse_write Layout.tight_isBlank hv hblanks with ⟨-, hparse⟩ | ⟨hdeep, -⟩
  · rwa [List.append_nil] at hparse
  · omega

end Json

end ScriptOutline
