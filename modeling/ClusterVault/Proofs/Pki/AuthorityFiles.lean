import ClusterVault.Pki.Authority
import ClusterVault.Proofs.Files.Contents
import Mathlib.Logic.Function.Basic
import Mathlib.Logic.Relation

/-!
# The files of an authority

An authority is kept in two files, which are written one after the other. A run may end in between,
and either file may be removed. This module shows that an authority that is opened nevertheless has
the key that belongs to its certificate, unless a run has ended at one point: when it had written a
new certificate beside the key of an earlier authority.

## Main definitions

- `CertificateAuthority.Half`: either file of an authority
- `SaveStep.Leaves`: what a run leaves that ends between two steps of writing, or inside one
- `CertificateAuthority.Move`: what happens to a directory in which an authority is kept
- `CertificateAuthority.Strands`: a new certificate is left beside an old key

## Main statements

- `CertificateAuthority.opened_pair_matches`: an authority that is opened signs with the key of its
  certificate, and is the one that is opened next
- `CertificateAuthority.opened_pair_mismatched`: one that does not, after a run that has ended at that
  point
-/

namespace ClusterVault

/-- A document in which there is neither a certificate nor a key. -/
structure Document.IsTorn (d : Document) : Prop where
  certificate : ∀ c, Certificate.read d ≠ .ok c
  key : ∀ k, PrivateKey.read d ≠ .ok k

theorem Document.isTorn_empty : (Document.text []).IsTorn where
  certificate := by
    have hread : Certificate.read (.text []) = .error .rejected := by decide
    rw [hread]
    exact nofun
  key := nofun

namespace SaveStep

/-- What a run leaves that takes steps of writing and may end between any two of them or inside one. A
    file that is written only in part holds nothing of use. -/
inductive Leaves : FileSystem → List SaveStep → FileSystem → Prop
  | stop (fs : FileSystem) (steps : List SaveStep) : Leaves fs steps fs
  | tear {fs : FileSystem} {path : String} {content torn : Document} (rest : List SaveStep)
    (htorn : torn.IsTorn) : Leaves fs (.fill path content :: rest) (fs.fill path torn)
  | fail {fs fs' : FileSystem} {step : SaveStep} {e : PkiError} (rest : List SaveStep)
    (hstep : step.run fs = (fs', some e)) : Leaves fs (step :: rest) fs'
  | next {fs fs' fs'' : FileSystem} {step : SaveStep} {rest : List SaveStep}
    (hstep : step.run fs = (fs', none)) (hrest : Leaves fs' rest fs'') :
    Leaves fs (step :: rest) fs''

end SaveStep

namespace CertificateAuthority

/-- Either file of an authority. -/
inductive Half where
  | certificate
  | key
  deriving DecidableEq, Repr

namespace Half

/-- The name of the file. -/
def file : Half → String
  | certificate => certificateFile
  | key => keyFile

/-- The path of the file in a directory. -/
def path (half : Half) (directory : String) : String := FilePath.join directory half.file

theorem isFileName (half : Half) : FilePath.IsFileName half.file := by
  cases half with
  | certificate => constructor <;> decide
  | key => constructor <;> decide

theorem file_inj {half half' : Half} (h : half.file = half'.file) : half = half' := by
  cases half with
  | certificate =>
    cases half' with
    | certificate => rfl
    | key => exact absurd h (by decide)
  | key =>
    cases half' with
    | certificate => exact absurd h (by decide)
    | key => rfl

end Half

/-- What the two files hold, as far as they are there. -/
abbrev Contents := Half → Option Document

/-- The files hold an authority. -/
def Contents.of (a : CertificateAuthority) : Contents
  | .certificate => some (.certificate a.certificate)
  | .key => some (.privateKey a.key)

theorem Contents.update_update (contents : Contents) (a : CertificateAuthority) :
    Function.update (Function.update contents Half.certificate (some (.certificate a.certificate)))
      Half.key (some (.privateKey a.key)) = Contents.of a := by
  funext half
  cases half with
  | certificate => rw [Function.update_of_ne (by decide), Function.update_self, Contents.of]
  | key => rw [Function.update_self, Contents.of]

/-- What has been there of the key of an earlier authority is still there, beside a certificate that a
    run has written. -/
def Strands (directory : String) (before after : FileSystem) : Prop :=
  ∃ old new, before.read (Half.key.path directory) = .ok (.privateKey old) ∧
    after.read (Half.key.path directory) = .ok (.privateKey old) ∧
    after.read (Half.certificate.path directory) = .ok (.certificate new)

/-- What happens to a directory in which an authority is kept, where `Ends` admits what a run that is
    cut off may do to the files. -/
inductive Move (directory : String) (Ends : FileSystem → FileSystem → Prop) : Machine → Machine → Prop
  | opens (m : Machine) : Move directory Ends m (openIn m directory).1
  /-- Opening ends while a new authority is written. -/
  | ends {m : Machine} {files : FileSystem} (hnew : isKept m.files directory = false)
    (hleaves : SaveStep.Leaves m.files ((generate m.clock m.unused).saveSteps directory) files)
    (hends : Ends m.files files) : Move directory Ends m { m with files, unused := m.unused + 1 }
  | removes {m : Machine} {files : FileSystem} (half : Half)
    (hremove : m.files.remove (half.path directory) = .ok files) :
    Move directory Ends m { m with files }
  /-- Time passes, and keys are drawn elsewhere. -/
  | passes (m : Machine) (clock unused : Nat) : Move directory Ends m { m with clock, unused }

/-- Whatever happens to a directory as long as no run leaves a new certificate beside an old key. -/
abbrev Moves (directory : String) : Machine → Machine → Prop :=
  Relation.ReflTransGen (Move directory fun before after => ¬Strands directory before after)

/-! ## What the files hold -/

/-- There is a directory with room for both files, which hold the given contents. -/
structure Holds (directory : String) (place : Place) (fs : FileSystem) (contents : Contents) : Prop where
  isDirectory : fs.isDirectory (.ofString directory)
  seats : ∀ half : Half, fs.Seats (half.path directory) (place ++ [half.file])
  content?_eq : ∀ half : Half, fs.content? (place ++ [half.file]) = contents half

namespace Holds

variable {directory : String} {place : Place} {fs fs' : FileSystem} {contents : Contents} {half : Half}
  {content : Document}

theorem read_eq (h : Holds directory place fs contents) (half : Half) :
    fs.read (half.path directory) = (contents half).elim (.error .missing) .ok := by
  rw [(h.seats half).read_eq, h.content?_eq]

theorem isKept_eq (h : Holds directory place fs contents) :
    isKept fs directory = ((contents .certificate).isSome && (contents .key).isSome) := by
  show (fs.pathExists (Half.certificate.path directory) && fs.pathExists (Half.key.path directory)) = _
  rw [(h.seats .certificate).pathExists_eq, (h.seats .key).pathExists_eq, h.content?_eq, h.content?_eq]

theorem load_eq (h : Holds directory place fs contents) {c k : Document}
    (hc : contents .certificate = some c) (hk : contents .key = some k) :
    load fs directory = ofDocuments c k := by
  show ((fs.read (Half.certificate.path directory)).mapError _ >>= fun certificate =>
    (fs.read (Half.key.path directory)).mapError _ >>= fun key => ofDocuments certificate key) = _
  rw [h.read_eq, h.read_eq, hc, hk]
  rfl

/-- To change one of the files leaves the other one as it is. -/
theorem update (h : Holds directory place fs contents) {change : Option Document}
    (hsame : fs.SameDirectories fs')
    (hchange : ∀ other, fs'.content? other =
      if other = place ++ [half.file] then change else fs.content? other) :
    Holds directory place fs' (Function.update contents half change) where
  isDirectory := hsame.isDirectory h.isDirectory
  seats := fun half => (h.seats half).of_same hsame
  content?_eq := by
    intro half'
    rw [hchange, h.content?_eq]
    by_cases heq : half' = half
    · subst heq
      rw [if_pos rfl, Function.update_self]
    · rw [Function.update_of_ne heq, if_neg]
      intro hplace
      exact heq (Half.file_inj (List.singleton_inj.1 (List.append_cancel_left hplace)))

theorem clear (h : Holds directory place fs contents) (half : Half) :
    ∃ fs', SaveStep.run fs (.clear (half.path directory)) = (fs', none) ∧
      Holds directory place fs' (Function.update contents half (some (.text []))) := by
  obtain ⟨fs', htruncate, hsame, hchange⟩ := (h.seats half).truncate privateMode
  refine ⟨fs', ?_, h.update hsame hchange⟩
  rw [SaveStep.run, htruncate]

theorem fill (h : Holds directory place fs contents) (half : Half) (hfile : (contents half).isSome)
    (content : Document) :
    Holds directory place (fs.fill (half.path directory) content)
      (Function.update contents half (some content)) := by
  rw [← h.content?_eq] at hfile
  obtain ⟨hsame, hchange⟩ := (h.seats half).fill hfile content
  exact h.update hsame hchange

theorem remove (h : Holds directory place fs contents) (half : Half)
    (hremove : fs.remove (half.path directory) = .ok fs') :
    Holds directory place fs' (Function.update contents half none) := by
  obtain ⟨hsame, hchange⟩ := (h.seats half).remove hremove
  exact h.update hsame hchange

end Holds

/-! ## Writing both files -/

/-- What the files hold after some of the steps of keeping an authority. -/
inductive Written (contents : Contents) (a : CertificateAuthority) : Contents → Prop
  | nothing : Written contents a contents
  | certificateTorn {torn : Document} (htorn : torn.IsTorn) :
    Written contents a (Function.update contents .certificate (some torn))
  | certificateOnly :
    Written contents a (Function.update contents .certificate (some (.certificate a.certificate)))
  | keyTorn {torn : Document} (htorn : torn.IsTorn) :
    Written contents a (Function.update
      (Function.update contents .certificate (some (.certificate a.certificate))) .key (some torn))
  | both : Written contents a (.of a)

namespace Holds

variable {directory : String} {place : Place} {fs fs' : FileSystem} {contents : Contents} {half : Half}
  {content : Document} {rest : List SaveStep} {a : CertificateAuthority}

/-- The directory is not made again. -/
theorem run_makeDirectory (h : Holds directory place fs contents) {e : Option PkiError}
    (hstep : SaveStep.run fs (.makeDirectory directory) = (fs', e)) : fs' = fs := by
  rw [← FileSystem.makeDirectories_of_isDirectory h.isDirectory]
  exact (congrArg Prod.fst hstep).symm

/-- What a run leaves that writes one of the files, and then takes other steps. -/
theorem leaves_file (h : Holds directory place fs contents) (half : Half)
    (hleaves : SaveStep.Leaves fs (SaveStep.file (half.path directory) content ++ rest) fs') :
    Holds directory place fs' contents ∨
      (∃ torn : Document, torn.IsTorn ∧
        Holds directory place fs' (Function.update contents half (some torn))) ∨
      ∃ mid, Holds directory place mid (Function.update contents half (some content)) ∧
        SaveStep.Leaves mid rest fs' := by
  obtain ⟨cleared, hclear, hempty⟩ := h.clear half
  have hfill (content : Document) := by
    have hfilled := hempty.fill half (by rw [Function.update_self]; rfl) content
    rwa [Function.update_idem] at hfilled
  cases hleaves with
  | stop => exact .inl h
  | fail _ hstep =>
    rw [hclear] at hstep
    cases hstep
  | next hstep hrest =>
    rw [hclear] at hstep
    cases hstep
    cases hrest with
    | stop => exact .inr (.inl ⟨_, Document.isTorn_empty, hempty⟩)
    | tear _ htorn => exact .inr (.inl ⟨_, htorn, hfill _⟩)
    | fail _ hstep => cases hstep
    | next hstep hrest =>
      cases hstep
      exact .inr (.inr ⟨_, hfill content, hrest⟩)

/-- What a run leaves that keeps an authority. -/
theorem leaves (h : Holds directory place fs contents)
    (hleaves : SaveStep.Leaves fs (a.saveSteps directory) fs') :
    ∃ contents', Holds directory place fs' contents' ∧ Written contents a contents' := by
  cases hleaves with
  | stop => exact ⟨_, h, .nothing⟩
  | fail _ hstep =>
    obtain rfl := h.run_makeDirectory hstep
    exact ⟨_, h, .nothing⟩
  | next hstep hrest =>
    obtain rfl := h.run_makeDirectory hstep
    rcases h.leaves_file .certificate hrest with h' | ⟨torn, htorn, h'⟩ | ⟨mid, hmid, hrest⟩
    · exact ⟨_, h', .nothing⟩
    · exact ⟨_, h', .certificateTorn htorn⟩
    · rw [← List.append_nil (SaveStep.file _ _)] at hrest
      rcases hmid.leaves_file .key hrest with h' | ⟨torn, htorn, h'⟩ | ⟨mid', hmid', hrest⟩
      · exact ⟨_, h', .certificateOnly⟩
      · exact ⟨_, h', .keyTorn htorn⟩
      · cases hrest
        rw [Contents.update_update] at hmid'
        exact ⟨_, hmid', .both⟩

/-- A run that is not cut off writes the file, and goes on. -/
theorem runAll_file (h : Holds directory place fs contents) (half : Half) (content : Document)
    (rest : List SaveStep) :
    ∃ mid, Holds directory place mid (Function.update contents half (some content)) ∧
      SaveStep.runAll fs (SaveStep.file (half.path directory) content ++ rest) =
        SaveStep.runAll mid rest := by
  obtain ⟨cleared, hclear, hempty⟩ := h.clear half
  have hfilled := hempty.fill half (by rw [Function.update_self]; rfl) content
  rw [Function.update_idem] at hfilled
  refine ⟨_, hfilled, ?_⟩
  rw [SaveStep.file, List.cons_append, SaveStep.runAll, hclear]
  rfl

/-- A run that is not cut off keeps the authority, or fails before it has changed a file. -/
theorem runAll_saveSteps (h : Holds directory place fs contents) {e : Option PkiError}
    (hrun : SaveStep.runAll fs (a.saveSteps directory) = (fs', e)) :
    (e = none ∧ Holds directory place fs' (.of a)) ∨ (e ≠ none ∧ fs' = fs) := by
  have hsplit : a.saveSteps directory = .makeDirectory directory ::
      (SaveStep.file (Half.certificate.path directory) (.certificate a.certificate) ++
        (SaveStep.file (Half.key.path directory) (.privateKey a.key) ++ [])) := by
    rw [List.append_nil]
    rfl
  rw [hsplit, SaveStep.runAll] at hrun
  split at hrun
  · next hmade =>
    obtain rfl := h.run_makeDirectory hmade
    obtain ⟨mid, hmid, heq⟩ := h.runAll_file .certificate (.certificate a.certificate)
      (SaveStep.file (Half.key.path directory) (.privateKey a.key) ++ [])
    obtain ⟨last, hlast, heq'⟩ := hmid.runAll_file .key (.privateKey a.key) []
    rw [heq, heq'] at hrun
    cases hrun
    rw [Contents.update_update] at hlast
    exact .inl ⟨rfl, hlast⟩
  · next hmade =>
    obtain rfl := h.run_makeDirectory hmade
    cases hrun
    exact .inr ⟨nofun, rfl⟩

end Holds

/-! ## Whose key it is -/

/-- A certificate and a key that can both be read belong together. -/
def Contents.Match (contents : Contents) : Prop :=
  ∀ c k a, contents .certificate = some c → contents .key = some k → ofDocuments c k = .ok a →
    a.certificate.matchesKey a.key

theorem ofDocuments_eq_ok {c k : Document} {a : CertificateAuthority} :
    ofDocuments c k = .ok a ↔
      Certificate.read c = .ok a.certificate ∧ PrivateKey.read k = .ok a.key := by
  rw [ofDocuments]
  cases hc : Certificate.read c with
  | error e => exact ⟨nofun, nofun⟩
  | ok certificate =>
    cases hk : PrivateKey.read k with
    | error e => exact ⟨nofun, nofun⟩
    | ok key =>
      constructor
      · rintro ⟨⟩
        exact ⟨rfl, rfl⟩
      · rintro ⟨hcertificate, hkey⟩
        cases hcertificate
        cases hkey
        rfl

theorem PrivateKey.eq_of_read_eq_ok {d : Document} {k : PrivateKey} (h : PrivateKey.read d = .ok k) :
    d = .privateKey k := by
  cases d with
  | privateKey key =>
    cases h
    rfl
  | text | certificate => cases h

/-- A new authority signs with the key of its certificate. -/
theorem Contents.match_of_generate (now unused : Nat) : (Contents.of (generate now unused)).Match := by
  intro c k a hc hk hread
  cases hc
  cases hk
  cases hread
  exact decide_eq_true rfl

namespace Holds

variable {directory : String} {place : Place} {fs fs' : FileSystem} {contents : Contents}
  {m m' : Machine} {a : CertificateAuthority} {result : Except PkiError CertificateAuthority}

theorem match_of_isKept_eq_false (h : Holds directory place fs contents)
    (hnew : isKept fs directory = false) : contents.Match := by
  intro c k a hc hk
  rw [h.isKept_eq, hc, hk] at hnew
  cases hnew

/-- What a run leaves that keeps a new authority belongs together, unless it has written the
    certificate beside an old key. -/
theorem match_of_leaves (h : Holds directory place m.files contents)
    (hnew : isKept m.files directory = false)
    (hleaves : SaveStep.Leaves m.files ((generate m.clock m.unused).saveSteps directory) fs')
    (hstrands : ¬Strands directory m.files fs') :
    ∃ contents', Holds directory place fs' contents' ∧ contents'.Match := by
  obtain ⟨contents', h', hwritten⟩ := h.leaves hleaves
  refine ⟨contents', h', ?_⟩
  cases hwritten with
  | nothing => exact h.match_of_isKept_eq_false hnew
  | certificateTorn htorn =>
    intro c k a hc _ hread
    rw [Function.update_self] at hc
    cases hc
    exact absurd (ofDocuments_eq_ok.1 hread).1 (htorn.certificate _)
  | certificateOnly =>
    intro c k a hc hk hread
    -- the key is the one that was there before
    rw [PrivateKey.eq_of_read_eq_ok (ofDocuments_eq_ok.1 hread).2] at hk
    refine absurd ⟨a.key, (generate m.clock m.unused).certificate, ?_, ?_, ?_⟩ hstrands
    · rw [h.read_eq]
      rw [Function.update_of_ne (by decide)] at hk
      rw [hk]
      rfl
    · rw [h'.read_eq, hk]
      rfl
    · rw [h'.read_eq, Function.update_self]
      rfl
  | keyTorn htorn =>
    intro c k a _ hk hread
    rw [Function.update_self] at hk
    cases hk
    exact absurd (ofDocuments_eq_ok.1 hread).2 (htorn.key _)
  | both => exact Contents.match_of_generate _ _

theorem match_remove (contents : Contents) (half : Half) :
    Contents.Match (Function.update contents half none) := by
  intro c k a hc hk
  cases half with
  | certificate =>
    rw [Function.update_self] at hc
    cases hc
  | key =>
    rw [Function.update_self] at hk
    cases hk

/-- To open an authority leaves the files as they are, or makes a new one that they hold. -/
theorem openIn_cases (h : Holds directory place m.files contents)
    (hopen : openIn m directory = (m', result)) :
    (m'.files = m.files ∧ ∀ a, result = .ok a →
        isKept m.files directory ∧ load m.files directory = .ok a) ∨
      (result = .ok (generate m.clock m.unused) ∧
        Holds directory place m'.files (.of (generate m.clock m.unused))) := by
  unfold openIn at hopen
  split at hopen
  · next hkept =>
    obtain ⟨rfl, rfl⟩ := Prod.mk.inj hopen
    exact .inl ⟨rfl, fun a hload => ⟨hkept, hload⟩⟩
  · cases hrun : SaveStep.runAll m.files ((generate m.clock m.unused).saveSteps directory) with
    | mk files fault =>
      dsimp only at hopen
      rw [hrun] at hopen
      rcases h.runAll_saveSteps hrun with ⟨rfl, hnew⟩ | ⟨hfault, rfl⟩
      · cases hopen
        exact .inr ⟨rfl, hnew⟩
      · cases fault with
        | none => exact absurd rfl hfault
        | some fault =>
          cases hopen
          exact .inl ⟨rfl, nofun⟩

/-- An authority that is loaded is the one that the files hold. -/
theorem matchesKey_of_load (h : Holds directory place fs contents) (hmatch : contents.Match)
    (hkept : isKept fs directory) (hload : load fs directory = .ok a) :
    a.certificate.matchesKey a.key := by
  rw [h.isKept_eq, Bool.and_eq_true, Option.isSome_iff_exists, Option.isSome_iff_exists] at hkept
  obtain ⟨⟨c, hc⟩, k, hk⟩ := hkept
  rw [h.load_eq hc hk] at hload
  exact hmatch c k a hc hk hload

/-- The files hold an authority that is opened as it is. -/
theorem openIn_of (h : Holds directory place m.files (.of a)) : openIn m directory = (m, .ok a) := by
  rw [openIn, if_pos (by rw [h.isKept_eq]; rfl), h.load_eq rfl rfl]
  rfl

end Holds

/-! ## Whatever happens to the directory -/

/-- There is room for both files, and what they hold belongs together. -/
def IsSound (directory : String) (place : Place) (fs : FileSystem) : Prop :=
  ∃ contents : Contents, Holds directory place fs contents ∧ contents.Match

variable {directory : String} {place : Place} {fs : FileSystem} {m m' : Machine}
  {a : CertificateAuthority}

theorem IsSound.move (hmove : Move directory (fun before after => ¬Strands directory before after) m m')
    (h : IsSound directory place m.files) : IsSound directory place m'.files := by
  obtain ⟨contents, h, hmatch⟩ := h
  cases hmove with
  | opens =>
    obtain ⟨m', result, hopen⟩ : ∃ m' result, openIn m directory = (m', result) := ⟨_, _, rfl⟩
    rw [hopen]
    rcases h.openIn_cases hopen with ⟨hsame, -⟩ | ⟨-, hnew⟩
    · rw [hsame]
      exact ⟨contents, h, hmatch⟩
    · exact ⟨_, hnew, Contents.match_of_generate _ _⟩
  | ends hnew hleaves hends => exact h.match_of_leaves hnew hleaves hends
  | removes half hremove => exact ⟨_, h.remove half hremove, Holds.match_remove contents half⟩
  | passes => exact ⟨contents, h, hmatch⟩

theorem IsSound.moves (hmoves : Moves directory m m') (h : IsSound directory place m.files) :
    IsSound directory place m'.files := by
  induction hmoves with
  | refl => exact h
  | tail _ hlast ih => exact ih.move hlast

theorem isPathText_of_runAll {fs' : FileSystem} {steps : List SaveStep} {path : String}
    (hrun : SaveStep.runAll fs steps = (fs', none)) (hclear : .clear path ∈ steps) :
    FileSystem.IsPathText path := by
  induction steps generalizing fs with
  | nil => cases hclear
  | cons step rest ih =>
    rw [SaveStep.runAll] at hrun
    split at hrun
    · next hstep =>
      rcases List.mem_cons.1 hclear with rfl | hrest
      · rw [SaveStep.run] at hstep
        split at hstep
        · next htruncate => exact FileSystem.isPathText_of_truncate htruncate
        · cases hstep
      · exact ih hrun hrest
    · cases hrun

theorem clear_mem_saveSteps (a : CertificateAuthority) (directory : String) (half : Half) :
    .clear (half.path directory) ∈ a.saveSteps directory := by
  cases half with
  | certificate => exact .tail _ (.head _)
  | key => exact .tail _ (.tail _ (.tail _ (.head _)))

/-- A directory in which an authority can be opened has a text that is not too long. -/
theorem isPathText_of_openIn (hopen : openIn m directory = (m', .ok a)) (half : Half) :
    FileSystem.IsPathText (half.path directory) := by
  unfold openIn at hopen
  split at hopen
  · next hkept =>
    have hboth := Bool.and_eq_true_iff.1 hkept
    cases half with
    | certificate => exact FileSystem.isPathText_of_pathExists hboth.1
    | key => exact FileSystem.isPathText_of_pathExists hboth.2
  · dsimp only at hopen
    cases hrun : SaveStep.runAll m.files ((generate m.clock m.unused).saveSteps directory) with
    | mk files fault =>
      rw [hrun] at hopen
      cases fault with
      | some fault => cases hopen
      | none =>
        exact isPathText_of_runAll hrun (clear_mem_saveSteps _ directory half)

/-- An empty directory has room for both files. -/
theorem exists_isSound (hdirectory : fs.isDirectory (.ofString directory))
    (hempty : ∀ half : Half, fs.pathExists (half.path directory) = false)
    (htext : ∀ half : Half, FileSystem.IsPathText (half.path directory)) :
    ∃ place, IsSound directory place fs := by
  have hthere := hdirectory
  unfold FileSystem.isDirectory at hthere
  split at hthere
  · next place hlocate =>
    have hseats : ∀ half : Half, fs.Seats (half.path directory) (place ++ [half.file]) := fun half =>
      FileSystem.seats_join hlocate (of_decide_eq_true hthere) half.isFileName (htext half)
        (hempty half)
    refine ⟨place, fun _ => none, ⟨hdirectory, hseats, fun half => ?_⟩, fun _ _ _ hc => ?_⟩
    · have hnone := hempty half
      rw [(hseats half).pathExists_eq] at hnone
      simpa using hnone
    · cases hc
  · cases hthere

/-- An authority that signs with the key of its certificate issues certificates that prove it. -/
theorem isSignedBy_of_issue (hkey : a.certificate.matchesKey a.key) {now unused : Nat}
    {request : CertificateRequest} {pair : CertificateKeyPair}
    (hissue : a.issue now unused request = .ok pair) :
    ∃ c, pair.certificate = .certificate c ∧ c.isSignedBy a.certificate ∧
      c.issuer = a.certificate.subject := by
  unfold issue at hissue
  dsimp only at hissue
  split at hissue
  · cases hissue
  · split at hissue
    · cases hissue
    · cases hissue
      exact ⟨_, rfl, hkey, rfl⟩

/-- A run that ends after some of its steps. -/
theorem leaves_of_take {fs' : FileSystem} {steps : List SaveStep} {count : Nat}
    (hrun : SaveStep.runAll fs (steps.take count) = (fs', none)) : SaveStep.Leaves fs steps fs' := by
  induction count generalizing fs steps with
  | zero =>
    cases hrun
    exact .stop _ steps
  | succ count ih =>
    cases steps with
    | nil =>
      cases hrun
      exact .stop _ []
    | cons step rest =>
      rw [List.take_succ_cons, SaveStep.runAll] at hrun
      split at hrun
      · next hstep => exact .next hstep (ih hrun)
      · cases hrun

/-- What is left if a file of the authority in the directory `pki` is removed. -/
def without (m : Machine) (half : Half) : Machine :=
  { m with files := (m.files.remove (half.path "pki")).toOption.getD m.files }

/-- What is left if opening the directory `pki` ends after some steps of writing. -/
def cutOff (m : Machine) (count : Nat) : Machine :=
  { m with
    files := (SaveStep.runAll m.files (((generate m.clock m.unused).saveSteps "pki").take count)).1
    unused := m.unused + 1 }

theorem move_without {Ends : FileSystem → FileSystem → Prop} {half : Half}
    (h : (m.files.remove (half.path "pki")).isOk = true) : Move "pki" Ends m (without m half) := by
  refine .removes half ?_
  cases hremove : m.files.remove (half.path "pki") with
  | ok files => rfl
  | error e =>
    rw [hremove] at h
    cases h

theorem move_cutOff {Ends : FileSystem → FileSystem → Prop} {count : Nat}
    (hnew : isKept m.files "pki" = false)
    (hok : (SaveStep.runAll m.files (((generate m.clock m.unused).saveSteps "pki").take count)).2 = none)
    (hends : Ends m.files (cutOff m count).files) : Move "pki" Ends m (cutOff m count) :=
  .ends hnew (leaves_of_take (Prod.ext rfl hok)) hends

/-- A machine with the empty directory `pki`. -/
def emptied : Machine := { files := ({} : FileSystem).put ["pki"] .directory, clock := 1000000 }

/-- An authority was made in the directory, and its certificate has been removed. -/
def withoutCertificate : Machine := without (openIn emptied "pki").1 .certificate

theorem moves_withoutCertificate (Ends : FileSystem → FileSystem → Prop) :
    Relation.ReflTransGen (Move "pki" Ends) emptied withoutCertificate :=
  .tail (.single (.opens emptied)) (move_without (by decide +kernel))

/-- Whatever happens to an empty directory, an authority that is opened there signs with the key of
    its certificate: the certificates that it issues are signed with that key in its name, and as long
    as nothing happens to the files it is the one that is opened next. This is so unless a run ends
    that has written a new certificate beside the key of an earlier authority. -/
theorem opened_pair_matches (start : Machine) (directory : String)
    (hdirectory : start.files.isDirectory (.ofString directory))
    (hempty : ∀ half : Half, start.files.pathExists (half.path directory) = false) (m : Machine)
    (hmoves : Moves directory start m) (m' : Machine) (a : CertificateAuthority)
    (hopen : openIn m directory = (m', .ok a)) :
    a.certificate.matchesKey a.key ∧
      (∀ now unused request pair, a.issue now unused request = .ok pair →
        ∃ c, pair.certificate = .certificate c ∧ c.isSignedBy a.certificate ∧
          c.issuer = a.certificate.subject) ∧
      ∀ clock unused, openIn { m' with clock, unused } directory = ({ m' with clock, unused }, .ok a) := by
  obtain ⟨place, hstart⟩ := exists_isSound hdirectory hempty (isPathText_of_openIn hopen)
  obtain ⟨contents, h, hmatch⟩ := hstart.moves hmoves
  have hkey : a.certificate.matchesKey a.key ∧
      ∀ clock unused, openIn { m' with clock, unused } directory =
        ({ m' with clock, unused }, .ok a) := by
    rcases h.openIn_cases hopen with ⟨hsame, hload⟩ | ⟨hnew, hholds⟩
    · obtain ⟨hkept, hload⟩ := hload a rfl
      refine ⟨h.matchesKey_of_load hmatch hkept hload, fun clock unused => ?_⟩
      rw [← hsame] at hkept hload
      rw [openIn, if_pos hkept, hload]
    · cases hnew
      exact ⟨Contents.match_of_generate _ _ _ _ _ rfl rfl rfl, fun clock unused =>
        Holds.openIn_of (m := { m' with clock, unused }) hholds⟩
  exact ⟨hkey.1, fun _ _ _ _ hissue => isSignedBy_of_issue hkey.1 hissue, hkey.2⟩

/-- A run has ended that had emptied the file of the missing certificate, and the old key has been
    removed as well. The next authority is a new one. -/
theorem opened_pair_matches_after_cut :
    let m := without (cutOff withoutCertificate 2) .key
    ∃ m' a, openIn m "pki" = (m', .ok a) ∧ a.key = ⟨2⟩ ∧ a.certificate.matchesKey a.key ∧
      openIn { m' with clock := 2000000 } "pki" = ({ m' with clock := 2000000 }, .ok a) := by
  intro m
  have hmoves : Moves "pki" emptied m := by
    refine .tail (.tail (moves_withoutCertificate _)
      (move_cutOff (by decide +kernel) (by decide +kernel) ?_)) (move_without (by decide +kernel))
    rintro ⟨old, new, -, -, hcertificate⟩
    have hempty : (cutOff withoutCertificate 2).files.read (Half.certificate.path "pki") =
        .ok (.text []) := by decide +kernel
    rw [hempty] at hcertificate
    cases hcertificate
  have hopen : openIn m "pki" = ((openIn m "pki").1, .ok (generate 1000000 2)) :=
    Prod.ext rfl (by decide +kernel)
  have hempty : ∀ half : Half, emptied.files.pathExists (half.path "pki") = false
    | .certificate => by decide +kernel
    | .key => by decide +kernel
  obtain ⟨hkey, -, hnext⟩ := opened_pair_matches emptied "pki" (by decide +kernel) hempty m hmoves _ _
    hopen
  exact ⟨_, _, hopen, rfl, hkey, hnext 2000000 _⟩

/-- If a run ends that has written a new certificate beside the key of the one that was removed, the
    authority that is opened next signs with a key that is not that of its certificate: the
    certificates that it issues do not prove it. -/
theorem opened_pair_mismatched :
    let m := cutOff withoutCertificate 3
    Relation.ReflTransGen (Move "pki" fun _ _ => True) emptied m ∧
      ∃ a, (openIn m "pki").2 = .ok a ∧ a.certificate.matchesKey a.key = false ∧
        ∃ c key, a.issue 1000000 2 { commonName := "leaf", validity := 60 } =
          .ok ⟨.certificate c, key⟩ ∧ c.isSignedBy a.certificate = false := by
  intro m
  refine ⟨.tail (moves_withoutCertificate _)
    (move_cutOff (by decide +kernel) (by decide +kernel) trivial), ?_⟩
  refine ⟨⟨(generate 1000000 1).certificate, ⟨0⟩⟩, by decide +kernel, by decide +kernel, ?_⟩
  exact ⟨_, _, rfl, by decide +kernel⟩

end CertificateAuthority

end ClusterVault
