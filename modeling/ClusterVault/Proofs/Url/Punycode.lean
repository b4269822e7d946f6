import ClusterVault.Url.Punycode
import Mathlib.Data.List.TakeDrop
import Mathlib.Data.List.TakeWhile
import Mathlib.Data.String.Basic

/-!
# Punycode goes back and forth

An ASCII form in small letters that stands for a label is the form of that label. The decoder inserts
characters in ascending order, each behind the last one of its code point, and the encoder looks for
the places of the characters in just that order. What has been inserted so far is what a finished
label holds of small code points. That is what the induction over the insertions is about.

## Main definitions

- `Punycode.points`: the code points that an encoder places
- `Punycode.Inserting`: what holds of a decoder between two insertions
- `Punycode.finish`: what an encoder writes from some place of a label on

## Main statements

- `Punycode.encode_of_decode?`: an ASCII form in small letters is the form of what it stands for
-/

namespace ClusterVault.Punycode

variable {label text s rest front : List Char} {c : Char} {k bias weight value m n next : Nat}

/-! ## Digits and numbers -/

theorem digit_of_digitValue? {d : Nat} (h : digitValue? c = some d) (hlower : c.toLower = c) :
    d < 36 ∧ digit d = c := by
  have hall : ∀ k < 0x80, (Char.ofNat k).toLower = Char.ofNat k →
      ∀ d ∈ digitValue? (Char.ofNat k), d < 36 ∧ digit d = Char.ofNat k := by decide +kernel
  have hascii : c.toNat < 0x80 := by
    have hz : 'z'.toNat < 0x80 := by decide
    have hZ : 'Z'.toNat < 0x80 := by decide
    have h9 : '9'.toNat < 0x80 := by decide
    unfold digitValue? at h
    split_ifs at h with hsmall hlarge hdecimal
    · exact Nat.lt_of_le_of_lt hsmall.2 hz
    · exact Nat.lt_of_le_of_lt hlarge.2 hZ
    · exact Nat.lt_of_le_of_lt hdecimal.2 h9
  have hdigit := hall c.toNat hascii
  rw [Char.ofNat_toNat] at hdigit
  exact hdigit hlower d h

theorem threshold_le (k bias : Nat) : threshold k bias ≤ 26 := by
  unfold threshold
  omega

/-- What has been read as a number is written again. -/
theorem writeNumber_of_readNumber {number : Nat}
    (h : readNumber s k bias weight value = some (number, rest)) (hs : ∀ c ∈ s, c.toLower = c) :
    ∃ q, number = value + q * weight ∧ s = writeNumber q k bias ++ rest := by
  induction s generalizing k weight value with
  | nil => cases h
  | cons c s ih =>
    rw [List.forall_mem_cons] at hs
    rw [readNumber] at h
    split at h
    · cases h
    · next d hvalue =>
      obtain ⟨hlt, hdigit⟩ := digit_of_digitValue? hvalue hs.1
      have hpos := one_le_threshold k bias
      have hle := threshold_le k bias
      dsimp only at h
      split at h
      · next hlast =>
        cases h
        refine ⟨d, rfl, ?_⟩
        rw [writeNumber, if_pos hlast, hdigit]
        rfl
      · next hmore =>
        obtain ⟨q, hnumber, hrest⟩ := ih h hs.2
        refine ⟨d + q * (36 - threshold k bias), ?_, ?_⟩
        · rw [hnumber, Nat.add_mul, Nat.add_assoc, Nat.mul_assoc, Nat.mul_comm weight]
        · rw [writeNumber, hrest]
          generalize threshold k bias = t at *
          -- the digit is what the number leaves over
          have hbelow : ¬ d + q * (36 - t) < t := by omega
          have hsplit : d + q * (36 - t) - t = d - t + q * (36 - t) := by omega
          have hleft : d - t < 36 - t := by omega
          have hback : t + (d - t) = d := by omega
          rw [if_neg hbelow, hsplit, Nat.add_mul_mod_self_right, Nat.mod_eq_of_lt hleft, hback,
            Nat.add_mul_div_right _ _ (Nat.zero_lt_of_lt hleft), Nat.div_eq_of_lt hleft,
            Nat.zero_add, hdigit]
          rfl

/-! ## The code points of a label -/

/-- The code points that an encoder places, in ascending order. -/
def points (label : List Char) : List Nat :=
  (((label.map (·.toNat)).filter (0x80 ≤ ·)).mergeSort (· ≤ ·)).eraseDups

theorem mem_points : n ∈ points label ↔ 0x80 ≤ n ∧ ∃ c ∈ label, c.toNat = n := by
  rw [points, List.mem_eraseDups, List.mem_mergeSort, List.mem_filter, List.mem_map,
    decide_eq_true_eq, and_comm]

theorem pairwise_lt_eraseDups {l : List Nat} (h : l.Pairwise (· ≤ ·)) :
    l.eraseDups.Pairwise (· < ·) := by
  induction hlength : l.length using Nat.strongRecOn generalizing l with
  | ind length ih =>
    cases l with
    | nil => exact List.Pairwise.nil
    | cons a l =>
      rw [List.pairwise_cons] at h
      rw [List.eraseDups_cons, List.pairwise_cons]
      have hshort := List.length_filter_le (fun b => !b == a) l
      constructor
      · intro b hb
        rw [List.mem_eraseDups, List.mem_filter] at hb
        have hle := h.1 b hb.1
        have hne : b ≠ a := by simpa using hb.2
        omega
      · exact ih _ (by rw [← hlength, List.length_cons]; omega) (h.2.filter _) rfl

theorem pairwise_points (label : List Char) : (points label).Pairwise (· < ·) := by
  refine pairwise_lt_eraseDups ?_
  have hsorted := @List.pairwise_mergeSort Nat (fun a b => a ≤ b) (by simp; omega) (by simp; omega)
    ((label.map (·.toNat)).filter (0x80 ≤ ·))
  simpa using hsorted

/-- In an ascending list the next number comes first. -/
theorem filter_lt_eq_cons {l : List Nat} (h : l.Pairwise (· < ·)) (hn : n ∈ l) (hlt : m < n)
    (hleast : ∀ b ∈ l, m < b → n ≤ b) :
    l.filter (m < ·) = n :: l.filter (n < ·) := by
  induction l with
  | nil => cases hn
  | cons a l ih =>
    rw [List.pairwise_cons] at h
    rw [List.forall_mem_cons] at hleast
    by_cases ha : m < a
    · have hna : n = a := by
        rcases List.mem_cons.1 hn with heq | hmem
        · exact heq
        · have := h.1 n hmem
          have := hleast.1 ha
          omega
      subst hna
      have hall : l.filter (m < ·) = l.filter (n < ·) := by
        refine List.filter_congr fun b hb => ?_
        have := h.1 b hb
        simp only [decide_eq_decide]
        omega
      simp [ha, hall]
    · have hmem : n ∈ l := by
        rcases List.mem_cons.1 hn with heq | hmem
        · omega
        · exact hmem
      have hna : ¬ n < a := by omega
      simpa [ha, hna] using ih h.2 hmem hleast.2

/-! ## Placing characters -/

theorem filter_filter_of_imp {p q : Char → Bool} (h : ∀ c, p c → q c) (text : List Char) :
    (text.filter q).filter p = text.filter p := by
  rw [List.filter_filter]
  refine List.filter_congr fun c _ => ?_
  cases hp : p c with
  | false => rfl
  | true => rw [h c hp]; rfl

theorem Encoder.foldl_place_of_ne (basic : Nat) (e : Encoder) (h : ∀ c ∈ text, c.toNat ≠ m) :
    text.foldl (Encoder.place m basic) e =
      { e with delta := e.delta + (text.filter (·.toNat < m)).length } := by
  induction text generalizing e with
  | nil => rfl
  | cons c text ih =>
    rw [List.forall_mem_cons] at h
    rw [List.foldl_cons, ih _ h.2, Encoder.place, if_neg h.1]
    split
    · next hlt =>
      rw [List.filter_cons_of_pos (by simpa using hlt), List.length_cons, Nat.add_right_comm,
        Nat.add_assoc]
    · next hle => rw [List.filter_cons_of_neg (by simpa using hle)]

/-- Passing a text up to the next character to be placed writes one number. -/
theorem Encoder.foldl_place_of_filter_eq (basic : Nat) (e : Encoder) {before : List Char}
    (h : text.filter (·.toNat ≤ m) = before ++ [c]) (hbefore : ∀ c ∈ before, c.toNat < m)
    (hc : c.toNat = m) :
    text.foldl (Encoder.place m basic) e =
      { e with
        delta := 0
        bias := adapt (e.delta + before.length) (e.placed + 1) (e.placed = basic)
        placed := e.placed + 1
        output := (writeNumber (e.delta + before.length) 36 e.bias).reverse ++ e.output } := by
  obtain ⟨head, tail, rfl, hhead, htail⟩ := List.filter_eq_append_iff.1 h
  obtain ⟨skipped, last, rfl, hskipped, -, hlast⟩ := List.filter_eq_cons_iff.1 htail
  have hfront : ∀ d ∈ head ++ skipped, d.toNat ≠ m := by
    intro d hd heq
    have hle : decide (d.toNat ≤ m) = true := decide_eq_true (Nat.le_of_eq heq)
    rcases List.mem_append.1 hd with hd | hd
    · have := hbefore d (hhead ▸ List.mem_filter.2 ⟨hd, hle⟩)
      omega
    · exact hskipped d hd hle
  have hlt : (head ++ skipped).filter (·.toNat < m) = before := by
    have hnone : skipped.filter (·.toNat ≤ m) = [] := List.filter_eq_nil_iff.2 hskipped
    rw [← filter_filter_of_imp (q := (·.toNat ≤ m)) (by simp; omega), List.filter_append, hhead,
      hnone, List.append_nil, List.filter_eq_self]
    exact fun d hd => decide_eq_true (hbefore d hd)
  have hlast : ∀ d ∈ last, m < d.toNat := by
    simpa [List.filter_eq_nil_iff] using hlast
  have hback : ∀ d ∈ last, d.toNat ≠ m := fun d hd => Nat.ne_of_gt (hlast d hd)
  have hnone : last.filter (·.toNat < m) = [] := by
    rw [List.filter_eq_nil_iff]
    intro d hd
    simpa using Nat.le_of_lt (hlast d hd)
  rw [← List.append_assoc, List.foldl_append, foldl_place_of_ne basic e hfront, hlt,
    List.foldl_cons, Encoder.place, if_neg (Nat.lt_irrefl _ ∘ (hc ▸ ·)), if_pos hc,
    foldl_place_of_ne basic _ hback, hnone]
  rfl

/-- What an encoder writes that has placed everything below a code point and goes through the rest of
    the label for it. -/
def finish (label : List Char) (basic m : Nat) (rest : List Char) (e : Encoder) : List Char :=
  let e := rest.foldl (Encoder.place m basic) e
  let later := (points label).filter (m < ·)
  (encodePoints label basic later { e with delta := e.delta + 1, next := m + 1 }).output.reverse

/-! ## Inserting characters -/

/-- What holds between two insertions: what stands in front of the position has no higher code point
    than the last character inserted, and what stands behind has lower ones. -/
structure Inserting (basic next position : Nat) (output : List Char) : Prop where
  position_le : position ≤ output.length
  before : ∀ c ∈ output.take position, c.toNat ≤ next
  after : ∀ c ∈ output.drop position, c.toNat < next
  beyond : 0x80 ≤ next
  basic_le : basic ≤ output.length
  first_iff : position = 0 ↔ output.length = basic

section Inserting

variable {basic position point i : Nat} {output : List Char}

theorem take_insert (hi : i ≤ output.length) (c : Char) :
    (output.take i ++ c :: output.drop i).take (i + 1) = output.take i ++ [c] := by
  rw [List.append_cons, List.take_left']
  rw [List.length_append, List.length_take_of_le hi, List.length_singleton]

theorem drop_insert (hi : i ≤ output.length) (c : Char) :
    (output.take i ++ c :: output.drop i).drop (i + 1) = output.drop i := by
  rw [List.append_cons, List.drop_left']
  rw [List.length_append, List.length_take_of_le hi, List.length_singleton]

theorem length_insert (hi : i ≤ output.length) (c : Char) :
    (output.take i ++ c :: output.drop i).length = output.length + 1 := by
  rw [List.length_append, List.length_cons, List.length_take_of_le hi, List.length_drop]
  omega

theorem Inserting.le (h : Inserting basic next position output) : ∀ c ∈ output, c.toNat ≤ next := by
  intro c hc
  rw [← List.take_append_drop position output, List.mem_append] at hc
  rcases hc with hc | hc
  · exact h.before c hc
  · exact Nat.le_of_lt (h.after c hc)

theorem Inserting.insert (h : Inserting basic next position output) (hpoint : next ≤ point)
    (hi : i ≤ output.length) (hsame : point = next → position ≤ i) (hc : c.toNat = point) :
    Inserting basic point (i + 1) (output.take i ++ c :: output.drop i) := by
  have hbasic := h.basic_le
  have hlength := length_insert hi c
  constructor
  · omega
  · rw [take_insert hi, List.forall_mem_append, List.forall_mem_singleton]
    exact ⟨fun d hd => Nat.le_trans (h.le d (List.mem_of_mem_take hd)) hpoint, Nat.le_of_eq hc⟩
  · rw [drop_insert hi]
    intro d hd
    rcases Nat.eq_or_lt_of_le hpoint with heq | hlt
    · have hle := hsame heq.symm
      rw [← heq]
      rw [← Nat.add_sub_cancel' hle, ← List.drop_drop] at hd
      exact h.after d (List.mem_of_mem_drop hd)
    · exact Nat.lt_of_le_of_lt (h.le d (List.mem_of_mem_drop hd)) hlt
  · exact Nat.le_trans h.beyond hpoint
  · omega
  · omega

/-- An encoder of a text that goes on where a decoder has come to writes a text. The decoder has
    inserted what the text holds of small code points, up to a place for the last one. -/
def Resumes (text : List Char) (basic next position bias : Nat) (output s : List Char) : Prop :=
  ∃ front rest, text = front ++ rest ∧ front.filter (·.toNat ≤ next) = output.take position ∧
    rest.filter (·.toNat < next) = output.drop position ∧
    ∀ e : Encoder, e.delta = 0 → e.bias = bias → e.placed = output.length →
      finish text basic next rest e = e.output.reverse ++ s

/-- All characters have been inserted. -/
theorem Inserting.resumes_nil (h : Inserting basic next position output) (bias : Nat) :
    Resumes output basic next position bias output [] := by
  refine ⟨output.take position, output.drop position, (List.take_append_drop _ _).symm,
    List.filter_eq_self.2 fun c hc => decide_eq_true (h.before c hc),
    List.filter_eq_self.2 fun c hc => decide_eq_true (h.after c hc), fun e _ _ _ => ?_⟩
  have hlater : (points output).filter (next < ·) = [] := by
    rw [List.filter_eq_nil_iff]
    intro n hn
    obtain ⟨-, c, hc, rfl⟩ := mem_points.1 hn
    simpa using h.le c hc
  have hne : ∀ c ∈ output.drop position, c.toNat ≠ next := fun c hc => Nat.ne_of_lt (h.after c hc)
  rw [finish, hlater, Encoder.foldl_place_of_ne basic e hne, List.append_nil]
  rfl

/-- The encoder writes a number where the decoder inserts a character. -/
theorem Resumes.finish_append {before : List Char} {e : Encoder}
    (h : front.filter (·.toNat ≤ m) = before ++ [c]) (hbefore : ∀ c ∈ before, c.toNat < m)
    (hc : c.toNat = m) (hvalue : e.delta + before.length = value)
    (hwrites : ∀ e' : Encoder, e'.delta = 0 →
      e'.bias = adapt value (e.placed + 1) (e.placed = basic) → e'.placed = e.placed + 1 →
      finish text basic m rest e' = e'.output.reverse ++ s) :
    finish text basic m (front ++ rest) e =
      e.output.reverse ++ (writeNumber value 36 e.bias ++ s) := by
  rw [finish, List.foldl_append, Encoder.foldl_place_of_filter_eq basic e h hbefore hc, hvalue]
  refine (hwrites { e with
    delta := 0
    bias := adapt value (e.placed + 1) (e.placed = basic)
    placed := e.placed + 1
    output := (writeNumber value 36 e.bias).reverse ++ e.output } rfl rfl rfl).trans ?_
  rw [List.reverse_append, List.reverse_reverse, List.append_assoc]

/-- Another character of the code point. -/
theorem Resumes.same (h : Inserting basic next position output)
    (hi : position + value ≤ output.length) (hc : c.toNat = next)
    (hresumes : Resumes text basic next (position + value + 1)
      (adapt value (output.length + 1) (position = 0))
      (output.take (position + value) ++ c :: output.drop (position + value)) s) :
    Resumes text basic next position bias output (writeNumber value 36 bias ++ s) := by
  obtain ⟨front, rest, htext, hfront, hrest, hwrites⟩ := hresumes
  rw [take_insert hi, List.take_add, List.append_assoc] at hfront
  rw [drop_insert hi, ← List.drop_drop] at hrest
  rw [length_insert hi] at hwrites
  obtain ⟨head, tail, rfl, hhead, htail⟩ := List.filter_eq_append_iff.1 hfront
  have hpassed : ∀ d ∈ (output.drop position).take value, d.toNat < next :=
    fun d hd => h.after d (List.mem_of_mem_take hd)
  have hlength : ((output.drop position).take value).length = value := by
    rw [List.length_take, List.length_drop]
    omega
  refine ⟨head, tail ++ rest, by rw [htext, List.append_assoc], hhead, ?_, ?_⟩
  · have hsmall : tail.filter (·.toNat < next) = (output.drop position).take value := by
      rw [← filter_filter_of_imp (q := (·.toNat ≤ next)) (by simp; omega), htail,
        List.filter_append, List.filter_eq_self.2 fun d hd => decide_eq_true (hpassed d hd)]
      simp [hc]
    rw [List.filter_append, hsmall, hrest, List.take_append_drop]
  · intro e hdelta hbias hplaced
    rw [← hbias]
    refine Resumes.finish_append htail hpassed hc (by omega) fun e' hdelta' hbias' hplaced' => ?_
    refine hwrites e' hdelta' (hbias'.trans ?_) (by omega)
    rw [hplaced, decide_eq_decide.2 h.first_iff]

/-- What a text holds below the code point of the character inserted was there before. -/
theorem Inserting.filter_lt (h : Inserting basic next position output) (hlt : next < point)
    (hc : c.toNat = point) (hfront : front.filter (·.toNat ≤ point) = output.take i ++ [c])
    (hrest : rest.filter (·.toNat < point) = output.drop i) :
    (front ++ rest).filter (·.toNat < point) = output := by
  have hhead : front.filter (·.toNat < point) = output.take i := by
    rw [← filter_filter_of_imp (q := (·.toNat ≤ point)) (by simp; omega), hfront,
      List.filter_append, List.filter_eq_self.2 fun d hd => decide_eq_true
        (Nat.lt_of_le_of_lt (h.le d (List.mem_of_mem_take hd)) hlt)]
    simp [hc]
  rw [List.filter_append, hhead, hrest, List.take_append_drop]

/-- Then the next code point of the text is that of the character. -/
theorem Inserting.filter_points (h : Inserting basic next position output) (hlt : next < point)
    (hc : c ∈ text) (hpoint : c.toNat = point) (hsmall : text.filter (·.toNat < point) = output) :
    (points text).filter (next < ·) = point :: (points text).filter (point < ·) := by
  have hbeyond := h.beyond
  refine filter_lt_eq_cons (pairwise_points _) (mem_points.2 ⟨by omega, c, hc, hpoint⟩) hlt
    fun n hn hnext => ?_
  obtain ⟨-, d, hd, rfl⟩ := mem_points.1 hn
  by_contra hless
  have hmem : d ∈ output := hsmall ▸ List.mem_filter.2 ⟨hd, decide_eq_true (by omega)⟩
  have := h.le d hmem
  omega

/-- The first character of a later code point. -/
theorem Resumes.later (h : Inserting basic next position output) (hlt : next < point)
    (hi : i ≤ output.length) (hplace : (point - next) * (output.length + 1) + i = position + value)
    (hc : c.toNat = point)
    (hresumes : Resumes text basic point (i + 1) (adapt value (output.length + 1) (position = 0))
      (output.take i ++ c :: output.drop i) s) :
    Resumes text basic next position bias output (writeNumber value 36 bias ++ s) := by
  obtain ⟨front, rest, rfl, hfront, hrest, hwrites⟩ := hresumes
  rw [take_insert hi] at hfront
  rw [drop_insert hi] at hrest
  rw [length_insert hi] at hwrites
  have hsmall := h.filter_lt hlt hc hfront hrest
  have hpoints : (points (front ++ rest)).filter (next < ·) =
      point :: (points (front ++ rest)).filter (point < ·) := by
    have hmem : c ∈ front.filter (·.toNat ≤ point) := by
      rw [hfront]
      exact List.mem_append_right _ (List.mem_singleton_self c)
    exact h.filter_points hlt (List.mem_append_left _ (List.mem_of_mem_filter hmem)) hc hsmall
  -- the encoder has come to the place behind the last character inserted
  have houtput : (front ++ rest).filter (·.toNat ≤ next) =
      output.take position ++ output.drop position := by
    rw [← filter_filter_of_imp (q := (·.toNat < point)) (by simp; omega), hsmall,
      List.take_append_drop, List.filter_eq_self]
    exact fun d hd => decide_eq_true (h.le d hd)
  obtain ⟨head, tail, htext, hhead, htail⟩ := List.filter_eq_append_iff.1 houtput
  have hafter : tail.filter (·.toNat < next) = output.drop position := by
    rw [← filter_filter_of_imp (q := (·.toNat ≤ next)) (by simp; omega), htail,
      List.filter_eq_self]
    exact fun d hd => decide_eq_true (h.after d hd)
  have hne : ∀ d ∈ tail, d.toNat ≠ next := by
    intro d hd heq
    have hmem : d ∈ output.drop position :=
      htail ▸ List.mem_filter.2 ⟨hd, decide_eq_true (Nat.le_of_eq heq)⟩
    exact absurd heq (Nat.ne_of_lt (h.after d hmem))
  refine ⟨head, tail, htext, hhead, hafter, fun e hdelta hbias hplaced => ?_⟩
  -- from there it passes the rest of the text, and then the text up to the character
  rw [← hbias, finish, hpoints, Encoder.foldl_place_of_ne basic e hne, hafter]
  have hpassed : ∀ d ∈ output.take i, d.toNat < point :=
    fun d hd => Nat.lt_of_le_of_lt (h.le d (List.mem_of_mem_take hd)) hlt
  have hposition := h.position_le
  refine Resumes.finish_append hfront hpassed hc ?_ fun e' hdelta' hbias' hplaced' => ?_
  · have hskip : point - next = point - (next + 1) + 1 := by omega
    rw [hskip, Nat.add_mul, Nat.one_mul] at hplace
    dsimp only
    rw [hdelta, hplaced, List.length_drop, List.length_take_of_le hi]
    omega
  · refine hwrites e' hdelta' (hbias'.trans ?_) (hplaced'.trans ?_)
    · dsimp only
      rw [hplaced, decide_eq_decide.2 h.first_iff]
    · dsimp only
      rw [hplaced]

/-- An encoder goes on where the decoder has come to and writes what is left to be read. -/
theorem resumes_of_decodeLoop (h : decodeLoop s next position bias output = some text)
    (hs : ∀ c ∈ s, c.toLower = c) (hinserting : Inserting basic next position output) :
    Resumes text basic next position bias output s := by
  fun_induction decodeLoop s next position bias output with
  | case1 s next position bias output hempty =>
    cases h
    rw [List.isEmpty_iff.1 hempty]
    exact hinserting.resumes_nil bias
  | case2 => cases h
  | case3 => cases h
  | case4 s next position bias output hempty value rest hread length place point hvalid i ih =>
    obtain ⟨q, hq, hnumber⟩ := writeNumber_of_readNumber hread hs
    have hvalue : q = value := by omega
    rw [hvalue] at hnumber
    rw [hnumber, List.forall_mem_append] at hs
    rw [hnumber]
    have hc : (Char.ofNat point).toNat = point := by
      have hscalar : point.isValidChar := by
        simp only [Bool.or_eq_true, Bool.and_eq_true, decide_eq_true_eq] at hvalid
        unfold Nat.isValidChar
        omega
      rw [Char.ofNat, dif_pos hscalar]
      rfl
    have hi : i ≤ output.length := Nat.le_of_lt_succ (Nat.mod_lt _ (Nat.succ_pos _))
    have hle : next ≤ point := Nat.le_add_right _ _
    have hplace : (point - next) * (output.length + 1) + i = position + value := by
      have hpoint : point - next = place / length := Nat.add_sub_cancel_left _ _
      rw [hpoint, Nat.mul_comm]
      exact Nat.div_add_mod place length
    clear_value point i
    rcases Nat.eq_or_lt_of_le hle with rfl | hlt
    · rw [Nat.sub_self, Nat.zero_mul, Nat.zero_add] at hplace
      subst hplace
      have hinsert := hinserting.insert hle hi (fun _ => Nat.le_add_right _ _) hc
      exact Resumes.same hinserting hi hc (ih h hs.2 hinsert)
    · have hinsert := hinserting.insert hle hi (fun hsame => absurd hsame (Nat.ne_of_gt hlt)) hc
      exact Resumes.later hinserting hlt hi hplace hc (ih h hs.2 hinsert)

end Inserting

/-! ## Labels -/

theorem eq_append_of_splitAtLastDash {lead tail : List Char} (h : splitAtLastDash s = (lead, tail)) :
    s = (if lead.isEmpty then [] else lead ++ ['-']) ++ tail := by
  rw [splitAtLastDash] at h
  have hspan : (s.reverse.span (· ≠ '-')).1 ++ (s.reverse.span (· ≠ '-')).2 = s.reverse := by
    rw [List.span_eq_takeWhile_dropWhile]
    exact List.takeWhile_append_dropWhile
  have hhead : ∀ c ∈ (s.reverse.span (· ≠ '-')).2.head?, c = '-' := by
    rw [List.span_eq_takeWhile_dropWhile]
    intro c hc
    have := List.head?_dropWhile_not (· ≠ '-') s.reverse
    simp only [Option.mem_def] at hc
    rw [hc] at this
    simpa using this
  split at h
  · cases h
    rfl
  · cases h
    rfl
  · next tail' dash lead' hne heq =>
    cases h
    rw [heq] at hspan hhead
    have hdash : dash = '-' := hhead dash rfl
    have hlead : lead'.reverse.isEmpty = false := by
      cases lead' with
      | nil => exact (hne rfl).elim
      | cons => simp
    rw [hlead, ← List.reverse_reverse s, ← hspan, hdash]
    simp

theorem Encoder.foldl_place_next (basic : Nat) (e : Encoder) (n : Nat) (text : List Char) :
    text.foldl (Encoder.place m basic) { e with next := n } =
      { text.foldl (Encoder.place m basic) e with next := n } := by
  induction text generalizing e with
  | nil => rfl
  | cons c text ih =>
    rw [List.foldl_cons, List.foldl_cons, ← ih]
    congr 1
    unfold Encoder.place
    split_ifs
    all_goals rfl

/-- At the start nothing beyond ASCII has been placed. -/
theorem encodePoints_eq_finish {basic : Nat} {e : Encoder} (hnext : e.next = 0x80)
    (hfront : front.filter (·.toNat ≤ 0x80) = [])
    (hplaced : e.placed = (rest.filter (·.toNat < 0x80)).length) :
    (encodePoints (front ++ rest) basic (points (front ++ rest)) e).output.reverse =
      finish (front ++ rest) basic 0x80 rest e := by
  have hlarge : ∀ d ∈ front, 0x80 < d.toNat := by
    simpa [List.filter_eq_nil_iff] using hfront
  have hall : (points (front ++ rest)).filter (0x7f < ·) = points (front ++ rest) :=
    List.filter_eq_self.2 fun n hn => decide_eq_true (mem_points.1 hn).1
  by_cases hfirst : 0x80 ∈ points (front ++ rest)
  · have hpoints := filter_lt_eq_cons (m := 0x7f) (pairwise_points _) hfirst (by decide)
      fun n hn _ => (mem_points.1 hn).1
    rw [hall] at hpoints
    have hpassed : front.foldl (Encoder.place 0x80 basic) e = e := by
      have hnone : front.filter (·.toNat < 0x80) = [] := by
        rw [List.filter_eq_nil_iff]
        intro d hd
        simpa using Nat.le_of_lt (hlarge d hd)
      rw [Encoder.foldl_place_of_ne basic e fun d hd => Nat.ne_of_gt (hlarge d hd), hnone]
      rfl
    have hdelta' : e.delta + (0x80 - e.next) * (e.placed + 1) = e.delta := by
      rw [hnext, Nat.sub_self, Nat.zero_mul, Nat.add_zero]
    rw [hpoints, encodePoints, hdelta', List.foldl_append, hpassed]
    rfl
  · have hlater : (points (front ++ rest)).filter (0x80 < ·) = points (front ++ rest) := by
      rw [List.filter_eq_self]
      intro n hn
      have hne : n ≠ 0x80 := fun heq => hfirst (heq ▸ hn)
      have := (mem_points.1 hn).1
      exact decide_eq_true (by omega)
    have hne : ∀ d ∈ rest, d.toNat ≠ 0x80 := by
      intro d hd heq
      exact hfirst (mem_points.2 ⟨Nat.le_refl _, d, List.mem_append_right _ hd, heq⟩)
    rw [finish, hlater, Encoder.foldl_place_of_ne basic e hne, ← hplaced]
    cases hpoints : points (front ++ rest) with
    | nil => rfl
    | cons m later =>
      have hm : 0x80 < m := by
        have hmem : m ∈ (points (front ++ rest)).filter (0x80 < ·) := by
          rw [hlater, hpoints]
          exact List.mem_cons_self
        exact of_decide_eq_true (List.mem_filter.1 hmem).2
      have hskip : m - 0x80 = m - (0x80 + 1) + 1 := by omega
      have hdelta' : e.delta + e.placed + 1 + (m - (0x80 + 1)) * (e.placed + 1) =
          e.delta + (m - e.next) * (e.placed + 1) := by
        rw [hnext, hskip, Nat.add_mul, Nat.one_mul]
        omega
      have hnext' := Encoder.foldl_place_next (m := m) basic
        { e with delta := e.delta + (m - e.next) * (e.placed + 1) } (0x80 + 1) (front ++ rest)
      rw [encodePoints, encodePoints, hdelta', hnext']

/-- An ASCII form in small letters is the form of the label that it stands for. -/
theorem encode_of_decode? (h : decode? s = some text) (hs : ∀ c ∈ s, c.toLower = c) :
    encode text = s := by
  cases hsplit : splitAtLastDash s with
  | mk lead tail =>
    have heq := eq_append_of_splitAtLastDash hsplit
    rw [decode?, hsplit] at h
    dsimp only at h
    split at h
    · cases h
    · next hlead =>
      have hascii : ∀ c ∈ lead, c.toNat < 0x80 := by simpa using hlead
      have hinserting : Inserting lead.length 0x80 0 lead :=
        ⟨Nat.zero_le _, nofun, hascii, Nat.le_refl _, Nat.le_refl _, by simp⟩
      have htail : ∀ c ∈ tail, c.toLower = c := by
        rw [heq, List.forall_mem_append] at hs
        exact hs.2
      obtain ⟨front, rest, rfl, hfront, hrest, hwrites⟩ :=
        resumes_of_decodeLoop h htail hinserting
      rw [List.take_zero] at hfront
      rw [List.drop_zero] at hrest
      have hbasic : (front ++ rest).filter (·.toNat < 0x80) = lead := by
        rw [List.filter_append, hrest, ← filter_filter_of_imp (q := (·.toNat ≤ 0x80))
          (by simp; omega) front, hfront]
        rfl
      let start : Encoder :=
        { next := 0x80, delta := 0, bias := 72, placed := lead.length, output := [] }
      let finished := encodePoints (front ++ rest) lead.length (points (front ++ rest)) start
      have hstart : finished.output.reverse = finish (front ++ rest) lead.length 0x80 rest start :=
        encodePoints_eq_finish rfl hfront (congrArg List.length hrest.symm)
      have hencode : encode (front ++ rest) =
          (if lead.isEmpty then [] else lead ++ ['-']) ++ finished.output.reverse := by
        rw [encode, hbasic]
        rfl
      rw [hencode, hstart, hwrites start rfl rfl rfl, heq]
      rfl

/-! ## Characters of an ASCII form -/

section Characters

variable {P : Char → Prop} (hdigits : ∀ d < 36, P (digit d))

include hdigits

theorem mem_writeNumber (q k bias : Nat) : ∀ c ∈ writeNumber q k bias, P c := by
  fun_induction writeNumber q k bias with
  | case1 q k t hlt =>
    have hle := threshold_le k bias
    exact List.forall_mem_singleton.2 (hdigits q (by omega))
  | case2 q k t hge ih =>
    have hle := threshold_le k bias
    have hmod : (q - t) % (36 - t) < 36 - t := Nat.mod_lt _ (by omega)
    exact List.forall_mem_cons.2 ⟨hdigits _ (by omega), ih⟩

theorem Encoder.mem_output_foldl_place (m basic : Nat) (text : List Char) (e : Encoder)
    (he : ∀ c ∈ e.output, P c) : ∀ c ∈ (text.foldl (Encoder.place m basic) e).output, P c := by
  induction text generalizing e with
  | nil => exact he
  | cons d text ih =>
    rw [List.foldl_cons]
    refine ih _ ?_
    unfold Encoder.place
    split_ifs
    · exact he
    · refine List.forall_mem_append.2 ⟨fun c hc => ?_, he⟩
      exact mem_writeNumber hdigits _ _ _ c (List.mem_reverse.1 hc)
    · exact he

theorem mem_output_encodePoints (label : List Char) (basic : Nat) (later : List Nat) (e : Encoder)
    (he : ∀ c ∈ e.output, P c) : ∀ c ∈ (encodePoints label basic later e).output, P c := by
  induction later generalizing e with
  | nil => exact he
  | cons m later ih => exact ih _ (Encoder.mem_output_foldl_place hdigits m basic label _ he)

/-- An ASCII form is made of the label's characters of ASCII, hyphens and digits. -/
theorem mem_encode (hdash : P '-') (hlabel : ∀ c ∈ label, c.toNat < 0x80 → P c) :
    ∀ c ∈ encode label, P c := by
  have hlead : ∀ c ∈ label.filter (·.toNat < 0x80), P c := by
    intro c hc
    obtain ⟨hmem, hascii⟩ := List.mem_filter.1 hc
    exact hlabel c hmem (of_decide_eq_true hascii)
  rw [encode]
  refine List.forall_mem_append.2 ⟨?_, fun c hc => ?_⟩
  · split
    · exact nofun
    · exact List.forall_mem_append.2 ⟨hlead, List.forall_mem_singleton.2 hdash⟩
  · refine mem_output_encodePoints hdigits label _ _ _ ?_ c (List.mem_reverse.1 hc)
    exact List.forall_mem_nil P

end Characters

end ClusterVault.Punycode
