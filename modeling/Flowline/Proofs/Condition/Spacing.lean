import Flowline.Proofs.Condition.Literal

/-!
# Texts that differ in their blanks

Some spellings bring blanks along, so that two spellings of one condition can become texts that
differ in the number of blanks. The rewrites that look across blanks do not count them: from texts
that differ only so they make texts that differ only so.
-/

namespace Flowline.Condition.Spelling

def IsGap (cs : List Char) : Prop := ∀ c ∈ cs, Text.isBlank c = true

instance : DecidablePred IsGap := fun cs => inferInstanceAs (Decidable (∀ c ∈ cs, _))

/-- Two texts that differ in how many blanks there are wherever there are some. At the end of a
`loose` text there may also be none. -/
inductive Spaced (loose : Bool) : List Char → List Char → Prop
  | last (blank : IsGap gap) (blank' : IsGap gap') (tight : loose = false → gap = [] ∧ gap' = []) :
      Spaced loose gap gap'
  | keep (c : Char) (rest : Spaced loose cs ds) : Spaced loose (c :: cs) (c :: ds)
  | blanks (given : gap ≠ []) (given' : gap' ≠ []) (blank : IsGap gap) (blank' : IsGap gap')
      (rest : Spaced loose cs ds) : Spaced loose (gap ++ cs) (gap' ++ ds)

section

variable {loose : Bool} {c : Char} {cs ds gap gap' rest : List Char}

theorem IsGap.append (first : IsGap gap) (second : IsGap gap') : IsGap (gap ++ gap') :=
  List.forall_mem_append.mpr ⟨first, second⟩

theorem notMem_of_isGap (blank : IsGap gap) (other : Text.isBlank c = false) : c ∉ gap := by
  intro listed
  rw [blank c listed] at other
  cases other

namespace Spaced

theorem refl (cs : List Char) : Spaced loose cs cs := by
  induction cs with
  | nil => exact .last (by simp [IsGap]) (by simp [IsGap]) fun _ => ⟨rfl, rfl⟩
  | cons c cs ih => exact .keep c ih

theorem symm (spaced : Spaced loose cs ds) : Spaced loose ds cs := by
  induction spaced with
  | last blank blank' tight => exact .last blank' blank fun h => (tight h).symm
  | keep c _ ih => exact .keep c ih
  | blanks given given' blank blank' _ ih => exact .blanks given' given blank' blank ih

theorem append_same (spaced : Spaced loose cs ds) (front : List Char) :
    Spaced loose (front ++ cs) (front ++ ds) := by
  induction front with
  | nil => exact spaced
  | cons c front ih => exact .keep c ih

theorem eq_cons (spaced : Spaced loose (c :: cs) ds) (other : Text.isBlank c = false) :
    ∃ rest, ds = c :: rest ∧ Spaced loose cs rest := by
  generalize whole : c :: cs = text at spaced
  cases spaced with
  | last blank =>
    subst whole
    exact absurd List.mem_cons_self (notMem_of_isGap blank other)
  | keep d rest =>
    cases whole
    exact ⟨_, rfl, rest⟩
  | @blanks gap _ _ _ given _ blank =>
    cases gap with
    | nil => exact absurd rfl given
    | cons d gap =>
      cases whole
      exact absurd List.mem_cons_self (notMem_of_isGap blank other)

theorem dropWhile (spaced : Spaced loose cs ds) :
    Spaced loose (cs.dropWhile Text.isBlank) (ds.dropWhile Text.isBlank) := by
  have gone {gap : List Char} (blank : IsGap gap) : gap.dropWhile Text.isBlank = [] :=
    List.dropWhile_eq_nil_iff.mpr blank
  induction spaced with
  | last blank blank' tight =>
    rw [gone blank, gone blank']
    exact .last (by simp [IsGap]) (by simp [IsGap]) fun _ => ⟨rfl, rfl⟩
  | keep c rest ih =>
    cases blank : Text.isBlank c with
    | true => simpa [blank] using ih
    | false => simpa [blank] using .keep c rest
  | blanks _ _ blank blank' _ ih =>
    rwa [List.dropWhile_append_of_pos blank, List.dropWhile_append_of_pos blank']

-- ---------------------------------------------------------------------------
-- Calls of `if`
-- ---------------------------------------------------------------------------

theorem ifCallLength? (spaced : Spaced loose cs ds) (found : Spelling.ifCallLength? cs = some n) :
    n ≠ 0 ∧ ∃ m, Spelling.ifCallLength? ds = some m ∧ Spaced loose (cs.drop n) (ds.drop m) := by
  obtain ⟨gap, rest, rfl, rfl, blank⟩ := exists_of_ifCallLength? found
  obtain ⟨_, rfl, behind⟩ := spaced.eq_cons (by decide)
  obtain ⟨ds, rfl, name⟩ := behind.eq_cons (by decide)
  have further := name.dropWhile
  rw [List.dropWhile_append_of_pos blank, List.dropWhile_cons_of_neg (by decide)] at further
  obtain ⟨rest', opens, spaced'⟩ := further.eq_cons (by decide)
  have split : ds = ds.takeWhile Text.isBlank ++ '(' :: rest' := by
    rw [← opens, List.takeWhile_append_dropWhile]
  have blank' : IsGap (ds.takeWhile Text.isBlank) := fun _ => List.mem_takeWhile_imp
  refine ⟨Nat.succ_ne_zero _, (ds.takeWhile Text.isBlank).length + 3, ?_, ?_⟩
  · have call := ifCallLength?_call blank' rest'
    rwa [← split] at call
  · have past (gap rest : List Char) :
        ('i' :: 'f' :: (gap ++ '(' :: rest)).drop (gap.length + 3) = rest := by
      rw [List.drop_succ_cons, List.drop_succ_cons, List.append_cons]
      exact List.drop_left' (by simp)
    generalize ds.takeWhile Text.isBlank = gap' at split
    rw [split, past, past]
    exact spaced'

end Spaced

theorem ne_of_isBlank (blank : Text.isBlank c = true) : c ≠ 'i' := by
  rintro rfl
  cases blank

theorem precedesIf_of_isBlank (blank : Text.isBlank c = true) : precedesIf c = true := by
  simp [precedesIf, blank]

theorem spellIf_gap (given : gap ≠ []) (blank : IsGap gap) (atStart : Bool) (rest : List Char) :
    spellIf atStart (gap ++ rest) = gap ++ spellIf true rest := by
  induction gap generalizing atStart with
  | nil => exact absurd rfl given
  | cons c gap ih =>
    obtain ⟨here, further⟩ := List.forall_mem_cons.mp blank
    rw [List.cons_append, spellIf_cons fun _ => ifCallLength?_of_ne (ne_of_isBlank here) _,
      precedesIf_of_isBlank here, List.cons_append]
    by_cases last : gap = []
    · rw [last]
      rfl
    · rw [ih last further]

theorem Spaced.spellIf (spaced : Spaced loose cs ds) (atStart : Bool) :
    Spaced loose (spellIf atStart cs) (spellIf atStart ds) := by
  -- the scan goes on behind a call, so that the induction is on the length
  induction length : cs.length using Nat.strongRecOn generalizing cs ds atStart with
  | ind n ih =>
    subst length
    by_cases call : atStart = true ∧ ∃ n, Spelling.ifCallLength? cs = some n
    · obtain ⟨rfl, n, found⟩ := call
      obtain ⟨positive, m, found', further⟩ := spaced.ifCallLength? found
      have less : (cs.drop n).length < cs.length := by
        cases cs with
        | nil => cases found
        | cons c cs =>
          rw [List.length_drop, List.length_cons]
          omega
      rw [spellIf_call found, spellIf_call found']
      exact (ih _ less further false rfl).append_same choiceCall
    · have none {cs ds : List Char} (spaced : Spaced loose cs ds)
          (none : ¬ (atStart = true ∧ ∃ n, Spelling.ifCallLength? ds = some n))
          (start : atStart = true) : Spelling.ifCallLength? cs = .none := by
        refine Option.eq_none_iff_forall_ne_some.mpr fun n found => none ⟨start, ?_⟩
        obtain ⟨-, m, found', -⟩ := spaced.ifCallLength? found
        exact ⟨m, found'⟩
      have here := none (.refl cs) call
      have there := none spaced.symm call
      cases spaced with
      | last blank blank' tight =>
        have quiet {gap : List Char} (blank : IsGap gap) : '(' ∉ gap :=
          notMem_of_isGap blank (by decide)
        rw [spellIf_of_notMem (quiet blank), spellIf_of_notMem (quiet blank')]
        exact .last blank blank' tight
      | @keep cs ds c rest =>
        rw [spellIf_cons here, spellIf_cons there]
        exact .keep c (ih _ (Nat.lt_succ_self _) rest _ rfl)
      | @blanks gap gap' cs ds given given' blank blank' rest =>
        rw [spellIf_gap given blank, spellIf_gap given' blank']
        refine .blanks given given' blank blank' (ih _ ?_ rest true rfl)
        have some := List.length_pos_iff.mpr given
        rw [List.length_append]
        omega

-- ---------------------------------------------------------------------------
-- Words
-- ---------------------------------------------------------------------------

theorem opensCall_gap (blank : IsGap gap) (rest : List Char) :
    opensCall (gap ++ rest) = opensCall rest := by
  rw [opensCall, List.dropWhile_append_of_pos blank, ← opensCall]

theorem opensCall_cons (other : Text.isBlank c = false) (rest : List Char) :
    opensCall (c :: rest) = (c == '(') := by
  simp [opensCall, other]

theorem opensCall_word {word : List Char} (given : word ≠ [])
    (run : ∀ c ∈ word, Text.isWord c = true) (rest : List Char) :
    opensCall (word ++ rest) = false := by
  cases word with
  | nil => exact absurd rfl given
  | cons c word =>
    have here := run c List.mem_cons_self
    rw [List.cons_append, opensCall_cons (Text.isBlank_of_isWord here), beq_eq_false_iff_ne]
    rintro rfl
    cases here

theorem mapWords_gap {f : (word following : List Char) → List Char} (blank : IsGap gap)
    (rest : List Char) : mapWords f (gap ++ rest) = gap ++ mapWords f rest := by
  induction gap with
  | nil => rfl
  | cons c gap ih =>
    obtain ⟨here, further⟩ := List.forall_mem_cons.mp blank
    have noWord : Text.isWord c = false := by
      cases word : Text.isWord c with
      | false => rfl
      | true => exact here.symm.trans (Text.isBlank_of_isWord word)
    rw [List.cons_append, mapWords, noWord, ih further]
    rfl

def KeepsWords (f : (word following : List Char) → List Char) : Prop :=
  ∀ word following, word ≠ [] → (∀ c ∈ word, Text.isWord c = true) →
    f word following ≠ [] ∧ ∀ c ∈ f word following, Text.isWord c = true

theorem keepsWords_spellTruth : KeepsWords spellTruth := by
  intro word following given run
  unfold spellTruth
  split
  · decide
  split
  · decide
  · exact ⟨given, run⟩

section

variable {f g : (word following : List Char) → List Char}

theorem ends_mapWords (ends : ∀ c, cs.head? = some c → Text.isWord c = false) :
    ∀ c, (mapWords f cs).head? = some c → Text.isWord c = false := by
  cases cs with
  | nil => simp [mapWords]
  | cons d cs =>
    have here := ends d rfl
    rw [mapWords, here]
    rintro c ⟨⟩
    exact here

theorem ends_dropWhile (cs : List Char) :
    ∀ c, (cs.dropWhile Text.isWord).head? = some c → Text.isWord c = false := by
  intro c first
  simpa [first] using List.head?_dropWhile_not Text.isWord cs

theorem opensCall_mapWords (keeps : KeepsWords f) (cs : List Char) :
    opensCall (mapWords f cs) = opensCall cs := by
  fun_induction mapWords f cs with
  | case1 => rfl
  | case2 c rest isWord word following _ =>
    have run : ∀ d ∈ word, Text.isWord d = true :=
      List.forall_mem_cons.mpr ⟨isWord, fun _ => List.mem_takeWhile_imp⟩
    obtain ⟨given, run'⟩ := keeps word following (List.cons_ne_nil _ _) run
    have whole : c :: rest = word ++ following := by
      simp [word, following, List.takeWhile_append_dropWhile]
    rw [opensCall_word given run', whole, opensCall_word (List.cons_ne_nil _ _) run]
  | case3 c rest noWord ih =>
    cases blank : Text.isBlank c with
    | true => simpa [opensCall, blank] using ih
    | false => rw [opensCall_cons blank, opensCall_cons blank]

/-- Two rewrites of words one after the other are one, if the second looks no further than whether
a call opens. -/
theorem mapWords_mapWords (keeps : KeepsWords f)
    (looks : ∀ word {cs ds}, opensCall cs = opensCall ds → g word cs = g word ds)
    (cs : List Char) :
    mapWords g (mapWords f cs) = mapWords (fun word following => g (f word following) following)
      cs := by
  fun_induction mapWords f cs with
  | case1 => simp [mapWords]
  | case2 c rest isWord word following ih =>
    have run : ∀ d ∈ word, Text.isWord d = true :=
      List.forall_mem_cons.mpr ⟨isWord, fun _ => List.mem_takeWhile_imp⟩
    obtain ⟨given, run'⟩ := keeps word following (List.cons_ne_nil _ _) run
    have whole : c :: rest = word ++ following := by
      simp [word, following, List.takeWhile_append_dropWhile]
    have ends := ends_dropWhile rest
    rw [mapWords_append g given run' (ends_mapWords ends), ih, whole,
      mapWords_append _ (List.cons_ne_nil _ _) run ends, looks _ (opensCall_mapWords keeps _)]
  | case3 c rest noWord ih =>
    rw [mapWords.eq_def g, mapWords.eq_def _ (c :: rest)]
    simp [noWord, ih]

end

def spellWord (word following : List Char) : List Char :=
  spellCall (spellTruth word following) following

theorem spellCall_congr (word : List Char) (same : opensCall cs = opensCall ds) :
    spellCall word cs = spellCall word ds := by
  simp only [spellCall, same]

theorem spellWord_congr (word : List Char) (same : opensCall cs = opensCall ds) :
    spellWord word cs = spellWord word ds :=
  spellCall_congr _ same

theorem mapWords_spellCall_spellTruth (cs : List Char) :
    mapWords spellCall (mapWords spellTruth cs) = mapWords spellWord cs :=
  mapWords_mapWords keepsWords_spellTruth (fun word _ _ => spellCall_congr word) cs

end

/-- Two texts that may differ in their blanks and in the spelling of words that become the same. -/
inductive Alike (loose : Bool) : List Char → List Char → Prop
  | last (blank : IsGap gap) (blank' : IsGap gap') (tight : loose = false → gap = [] ∧ gap' = []) :
      Alike loose gap gap'
  | mark (noWord : Text.isWord c = false) (rest : Alike loose cs ds) :
      Alike loose (c :: cs) (c :: ds)
  | blanks (given : gap ≠ []) (given' : gap' ≠ []) (blank : IsGap gap) (blank' : IsGap gap')
      (rest : Alike loose cs ds) : Alike loose (gap ++ cs) (gap' ++ ds)
  | word (given : word ≠ []) (given' : word' ≠ []) (run : ∀ c ∈ word, Text.isWord c = true)
      (run' : ∀ c ∈ word', Text.isWord c = true)
      (ends : ∀ c, cs.head? = some c → Text.isWord c = false)
      (ends' : ∀ c, ds.head? = some c → Text.isWord c = false)
      (same : spellWord word cs = spellWord word' ds) (rest : Alike loose cs ds) :
      Alike loose (word ++ cs) (word' ++ ds)

namespace Alike

variable {loose : Bool} {cs ds : List Char}

theorem opensCall (alike : Alike loose cs ds) : opensCall cs = Spelling.opensCall ds := by
  induction alike with
  | @last gap gap' blank blank' =>
    have closed {gap : List Char} (blank : IsGap gap) : Spelling.opensCall gap = false :=
      opensCall_of_notMem (notMem_of_isGap blank (by decide))
    rw [closed blank, closed blank']
  | @mark c cs ds _ _ ih =>
    cases blank : Text.isBlank c with
    | true => simpa [Spelling.opensCall, blank] using ih
    | false => rw [opensCall_cons blank, opensCall_cons blank]
  | blanks _ _ blank blank' _ ih => rwa [opensCall_gap blank, opensCall_gap blank']
  | word given given' run run' => rw [opensCall_word given run, opensCall_word given' run']

theorem mapWords (alike : Alike loose cs ds) :
    Spaced loose (mapWords spellWord cs) (mapWords spellWord ds) := by
  induction alike with
  | @last gap gap' blank blank' tight =>
    have kept {gap : List Char} (blank : IsGap gap) : Spelling.mapWords spellWord gap = gap := by
      simpa [Spelling.mapWords] using mapWords_gap (f := spellWord) blank []
    rw [kept blank, kept blank']
    exact .last blank blank' tight
  | @mark c cs ds noWord _ ih =>
    rw [Spelling.mapWords.eq_def _ (c :: cs), Spelling.mapWords.eq_def _ (c :: ds)]
    simpa [noWord] using .keep c ih
  | blanks given given' blank blank' _ ih =>
    rw [mapWords_gap blank, mapWords_gap blank']
    exact .blanks given given' blank blank' ih
  | word given given' run run' ends ends' same _ ih =>
    rw [mapWords_append _ given run ends, mapWords_append _ given' run' ends', same]
    exact ih.append_same _

theorem append_same (alike : Alike loose cs ds)
    (ends : ∀ c, cs.head? = some c → Text.isWord c = false)
    (ends' : ∀ c, ds.head? = some c → Text.isWord c = false) (front : List Char) :
    Alike loose (front ++ cs) (front ++ ds) := by
  induction length : front.length using Nat.strongRecOn generalizing front with
  | ind n ih =>
    subst length
    cases front with
    | nil => exact alike
    | cons c front =>
      cases isWord : Text.isWord c with
      | false => exact .mark isWord (ih _ (Nat.lt_succ_self _) front rfl)
      | true =>
        have run : ∀ d ∈ c :: front.takeWhile Text.isWord, Text.isWord d = true :=
          List.forall_mem_cons.mpr ⟨isWord, fun _ => List.mem_takeWhile_imp⟩
        have whole : c :: front =
            (c :: front.takeWhile Text.isWord) ++ front.dropWhile Text.isWord := by
          simp [List.takeWhile_append_dropWhile]
        have less : (front.dropWhile Text.isWord).length < (c :: front).length :=
          Nat.lt_succ_of_le (List.dropWhile_sublist _).length_le
        have rest := ih _ less _ rfl
        have apart {cs : List Char} (ends : ∀ c, cs.head? = some c → Text.isWord c = false) :
            ∀ c, (front.dropWhile Text.isWord ++ cs).head? = some c → Text.isWord c = false := by
          intro d first
          rw [List.head?_append, Option.or_eq_some_iff] at first
          rcases first with first | ⟨-, first⟩
          · exact ends_dropWhile front d first
          · exact ends d first
        rw [whole, List.append_assoc, List.append_assoc]
        exact .word (List.cons_ne_nil _ _) (List.cons_ne_nil _ _) run run (apart ends)
          (apart ends') (spellWord_congr _ rest.opensCall) rest

end Alike

end Flowline.Condition.Spelling
