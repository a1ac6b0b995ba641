import DepView.Proofs.ArtifactNames
import DepView.Proofs.GraphBuilding
import DepView.Proofs.LineEndings
import DepView.Server.Route
import DepView.Server.Url
import Mathlib.Data.List.Nodup

/-!
The locations of a node. An encoded identifier consists of plain characters and of percent signs
with two digits each, so it is one segment of a path, whatever is in the identifier. A location is
read back as the identifier with what stands around it, and that tells the locations apart. The
flat form puts underscores where the digits of a slash are, and those stand for nothing else: no
other character has this byte in it, and no digits of two bytes are taken together.
-/

namespace DepView

namespace Text.Percent

/-- The characters that need no percent sign. -/
def plainChars : Text :=
  "ABCDEFGHIJKLMNOPQRSTUVWXYZabcdefghijklmnopqrstuvwxyz0123456789-_.!~*'()".toList

def upperHexDigits : Text := "0123456789ABCDEF".toList

/-- A text of plain characters, and of percent signs with two digits each. -/
inductive Encoded : Text → Prop where
  | nil : Encoded []
  | plain {c : Char} {rest : Text} (hc : c ∈ plainChars) (hrest : Encoded rest) :
      Encoded (c :: rest)
  | escaped {high low : Char} {rest : Text} (hhigh : high ∈ upperHexDigits)
      (hlow : low ∈ upperHexDigits) (hrest : Encoded rest) : Encoded ('%' :: high :: low :: rest)

theorem upperHexDigits_subset : upperHexDigits ⊆ plainChars := by
  decide

theorem Encoded.append {a b : Text} (ha : Encoded a) (hb : Encoded b) : Encoded (a ++ b) := by
  induction ha with
  | nil => exact hb
  | plain hc _ ih => exact .plain hc ih
  | escaped hhigh hlow _ ih => exact .escaped hhigh hlow ih

theorem Encoded.mem {text : Text} (h : Encoded text) : ∀ c ∈ text, c ∈ '%' :: plainChars := by
  induction h with
  | nil => exact List.forall_mem_nil _
  | plain hplain _ ih =>
    exact List.forall_mem_cons.mpr ⟨List.mem_cons_of_mem _ hplain, ih⟩
  | escaped hhigh hlow _ ih =>
    have hdigit : ∀ c ∈ upperHexDigits, c ∈ '%' :: plainChars :=
      fun c hc => List.mem_cons_of_mem _ (upperHexDigits_subset hc)
    exact List.forall_mem_cons.mpr ⟨List.mem_cons_self, List.forall_mem_cons.mpr
      ⟨hdigit _ hhigh, List.forall_mem_cons.mpr ⟨hdigit _ hlow, ih⟩⟩⟩

/-! One byte. -/

theorem hexDigit_mem : ∀ n < 16, hexDigit n ∈ upperHexDigits := by
  decide

theorem hexDigit_inj {m n : Nat} (hm : m < 16) (hn : n < 16) (h : hexDigit m = hexDigit n) :
    m = n := by
  have hvalue := congrArg hexValue? h
  rw [hexValue?_hexDigit m hm, hexValue?_hexDigit n hn] at hvalue
  exact Option.some.inj hvalue

theorem encoded_encodeByte (b : UInt8) : Encoded (encodeByte b) := by
  have hb : b.toNat < 256 := b.toNat_lt
  exact .escaped (hexDigit_mem _ (by omega)) (hexDigit_mem _ (by omega)) .nil

theorem encoded_encodeBytes (bytes : Bytes) : Encoded (bytes.flatMap encodeByte) := by
  induction bytes with
  | nil => exact .nil
  | cons b bytes ih =>
    rw [List.flatMap_cons]
    exact (encoded_encodeByte b).append ih

theorem encoded_encode {isSafe : Char → Bool} (hsafe : ∀ c, isSafe c = true → c ∈ plainChars)
    (text : Text) : Encoded (encode isSafe text) := by
  induction text with
  | nil => exact .nil
  | cons c text ih =>
    rw [encode_cons]
    split
    · exact .plain (hsafe c ‹_›) ih
    · exact (encoded_encodeBytes _).append ih

end Text.Percent

namespace Overlay

open Text Server

/-- An identifier with two underscores for every slash. -/
def underscored (id : Text) : Text :=
  id.flatMap fun c => if c = '/' then ['_', '_'] else [c]

theorem underscored_cons (c : Char) (id : Text) :
    underscored (c :: id) = (if c = '/' then ['_', '_'] else [c]) ++ underscored id :=
  List.flatMap_cons

theorem underscored_of_notMem {id : Text} (h : '/' ∉ id) : underscored id = id := by
  induction id with
  | nil => rfl
  | cons c id ih =>
    rw [List.mem_cons, not_or] at h
    rw [underscored_cons, if_neg (Ne.symm h.1), ih h.2, List.singleton_append]

theorem slash_notMem_underscored (id : Text) : '/' ∉ underscored id := by
  intro hmem
  obtain ⟨c, _, hc⟩ := List.mem_flatMap.mp hmem
  split at hc
  · simp at hc
  · rename_i hslash
    exact hslash (List.mem_singleton.mp hc).symm

/-! What encoding an identifier gives. -/

theorem plain_of_isComponentSafe {c : Char} (h : isComponentSafe c = true) :
    c ∈ Percent.plainChars := by
  have hascii : ∀ n < 128, isComponentSafe (Char.ofNat n) = true →
      Char.ofNat n ∈ Percent.plainChars := by
    decide +kernel
  have hcode : c.toNat < 128 := by
    rcases (Bool.or_eq_true _ _).mp h with halphanum | hmark
    · have hident : isIdent c = true := (Bool.or_eq_true _ _).mpr (.inl halphanum)
      exact Nat.lt_of_le_of_lt (code_of_isIdent hident).2 (by decide)
    · have hmarks : (['-', '_', '.', '!', '~', '*', '\'', '(', ')'].all (·.toNat < 128)) = true :=
        by decide
      exact of_decide_eq_true (List.all_eq_true.mp hmarks c (List.contains_iff_mem.mp hmark))
  have hself := hascii c.toNat hcode
  rw [Char.ofNat_toNat] at hself
  exact hself h

theorem encoded_encodeId (id : Text) : Percent.Encoded (encodeId id) :=
  Percent.encoded_encode (fun _ => plain_of_isComponentSafe) id

theorem notMem_encodeId {c : Char} (hc : c ∉ '%' :: Percent.plainChars) (id : Text) :
    c ∉ encodeId id :=
  fun hmem => hc ((encoded_encodeId id).mem c hmem)

theorem decode_encodeId (id : Text) : Percent.decode (encodeId id) = Utf8.encode id := by
  have h := Percent.decode_encode_append isComponentSafe_percent id []
  rwa [List.append_nil, show Percent.decode [] = [] from rfl, List.append_nil] at h

theorem decode?_encodeId (id : Text) : Utf8.decode? (Percent.decode (encodeId id)) = some id := by
  rw [decode_encodeId, Utf8.decode?_encode]

/-! The flat form. -/

theorem flattenSlashes_cons {c : Char} (hc : c ≠ '%') (rest : Text) :
    flattenSlashes (c :: rest) = c :: flattenSlashes rest := by
  rw [flattenSlashes]
  intro tail heq
  exact absurd heq hc

theorem flattenSlashes_append {text : Text} (h : '%' ∉ text) (rest : Text) :
    flattenSlashes (text ++ rest) = text ++ flattenSlashes rest := by
  induction text with
  | nil => rfl
  | cons c text ih =>
    rw [List.mem_cons, not_or] at h
    rw [List.cons_append, flattenSlashes_cons (Ne.symm h.1), ih h.2, List.cons_append]

/-- The digits of a byte other than that of a slash are left. -/
theorem flattenSlashes_encodeByte {b : UInt8} (hb : b ≠ 0x2f) (rest : Text) :
    flattenSlashes (Percent.encodeByte b ++ rest) =
      Percent.encodeByte b ++ flattenSlashes rest := by
  have hbyte : b.toNat < 256 := b.toNat_lt
  have hpercent : ∀ n < 16, Percent.hexDigit n ≠ '%' := by decide
  have hdigits : '%' ∉
      [Percent.hexDigit (b.toNat / 16), Percent.hexDigit (b.toNat % 16)] := by
    simpa using ⟨(hpercent _ (by omega)).symm, (hpercent _ (by omega)).symm⟩
  have hslash : ∀ tail, [Percent.hexDigit (b.toNat / 16), Percent.hexDigit (b.toNat % 16)] ++
      rest ≠ '2' :: 'F' :: tail := by
    intro tail heq
    simp only [List.cons_append, List.nil_append, List.cons.injEq] at heq
    have htwo : b.toNat / 16 = 2 := Percent.hexDigit_inj (by omega) (by decide) heq.1
    have hfifteen : b.toNat % 16 = 15 := Percent.hexDigit_inj (by omega) (by decide) heq.2.1
    exact hb (UInt8.toNat_inj.mp (by simp; omega))
  have hstep : flattenSlashes (Percent.encodeByte b ++ rest) =
      '%' :: flattenSlashes
        ([Percent.hexDigit (b.toNat / 16), Percent.hexDigit (b.toNat % 16)] ++ rest) := by
    rw [Percent.encodeByte, List.cons_append, flattenSlashes]
    intro tail _
    exact hslash tail
  rw [hstep, flattenSlashes_append hdigits]
  rfl

/-- No character but the slash has the byte of a slash in it. -/
theorem slash_notMem_encodeChar {c : Char} (hc : c ≠ '/') : 0x2f ∉ Utf8.encodeChar c := by
  have hcode : c.toNat ≠ 0x2f := fun h => hc (Char.toNat_inj.mp h)
  have hvalid : c.toNat < 0xd800 ∨ 0xdfff < c.toNat ∧ c.toNat < 0x110000 := c.valid
  have hbyte : ∀ n < 256, n ≠ 0x2f → 0x2f ≠ n.toUInt8 := by
    intro n hn hne heq
    have hvalue := congrArg UInt8.toNat heq
    rw [Utf8.toNat_toUInt8 hn] at hvalue
    exact hne hvalue.symm
  unfold Utf8.encodeChar
  dsimp only
  generalize c.toNat = n at hcode hvalid
  split_ifs with h1 h2 h3
  all_goals simp only [List.mem_cons, List.not_mem_nil, or_false, not_or]
  · exact hbyte _ (by omega) hcode
  · exact ⟨hbyte _ (by omega) (by omega), hbyte _ (by omega) (by omega)⟩
  · exact ⟨hbyte _ (by omega) (by omega), hbyte _ (by omega) (by omega),
      hbyte _ (by omega) (by omega)⟩
  · exact ⟨hbyte _ (by omega) (by omega), hbyte _ (by omega) (by omega),
      hbyte _ (by omega) (by omega), hbyte _ (by omega) (by omega)⟩

theorem flattenSlashes_encodeBytes {bytes : Bytes} (h : 0x2f ∉ bytes) (rest : Text) :
    flattenSlashes (bytes.flatMap Percent.encodeByte ++ rest) =
      bytes.flatMap Percent.encodeByte ++ flattenSlashes rest := by
  induction bytes with
  | nil => rfl
  | cons b bytes ih =>
    rw [List.mem_cons, not_or] at h
    rw [List.flatMap_cons, List.append_assoc, flattenSlashes_encodeByte (Ne.symm h.1), ih h.2,
      List.append_assoc]

theorem encodeId_append (a b : Text) : encodeId (a ++ b) = encodeId a ++ encodeId b :=
  List.flatMap_append

/-- Flattening an encoded identifier is encoding the identifier with underscores. -/
theorem flattenSlashes_encodeId (id rest : Text) :
    flattenSlashes (encodeId id ++ rest) = encodeId (underscored id) ++ flattenSlashes rest := by
  have hchar : ∀ c rest, flattenSlashes (encodeId [c] ++ rest) =
      encodeId (if c = '/' then ['_', '_'] else [c]) ++ flattenSlashes rest := by
    intro c rest
    by_cases hslash : c = '/'
    · subst hslash
      rfl
    · rw [if_neg hslash, encodeId, Percent.encode_cons, Percent.encode, List.flatMap_nil,
        List.append_nil]
      split
      · rename_i hsafe
        have hpercent : '%' ≠ c := (ne_of_class hsafe isComponentSafe_percent).symm
        exact flattenSlashes_append (by simpa using hpercent) rest
      · exact flattenSlashes_encodeBytes (slash_notMem_encodeChar hslash) rest
  induction id with
  | nil => rfl
  | cons c id ih =>
    rw [← List.singleton_append, encodeId_append, List.append_assoc, hchar, ih,
      List.singleton_append, underscored_cons, encodeId_append, List.append_assoc]

theorem flattened_eq (id : Text) : flattened id = underRoute treeDot (underscored id) := by
  have hroute : '%' ∉ artifactRoute ++ ['/'] := by decide
  have hlast : flattenSlashes treeDot = treeDot := by rfl
  have hflat := flattenSlashes_append hroute (encodeId id ++ treeDot)
  rw [flattenSlashes_encodeId, hlast] at hflat
  simpa [flattened, underRoute] using hflat

/-! What a location is read back as. -/

/-- What stands before an identifier in a location. -/
def fronts : List Text := [artifactRoute ++ ['/'], ['/']]

/-- What stands behind an identifier in a location. -/
def endings : List Text := [treeDot, ".dot".toList, treeDot ++ ".txt".toList]

/-- Those of them that there are at the root. -/
def rootEndings : List Text := [treeDot, ".dot".toList]

theorem mem_endings_of_root : ∀ ending ∈ rootEndings, ending ∈ endings := by
  decide

theorem endings_plain : ∀ ending ∈ endings, ending ⊆ Percent.plainChars := by
  decide

theorem notMem_ending {c : Char} (hc : c ∉ '%' :: Percent.plainChars) {ending : Text}
    (h : ending ∈ endings) : c ∉ ending :=
  fun hmem => hc (List.mem_cons_of_mem _ (endings_plain ending h hmem))

theorem percent_notMem_ending {ending : Text} (h : ending ∈ endings) : '%' ∉ ending :=
  fun hmem => absurd (endings_plain ending h hmem) (by decide)

theorem decoded_around {front ending : Text} (hfront : front ∈ fronts) (hending : ending ∈ endings)
    (id : Text) : Url.decoded (front ++ encodeId id ++ ending) = front ++ id ++ ending := by
  have hplain : ∀ front ∈ fronts, '%' ∉ front := by decide
  have happend : ∀ a b, Utf8.encode a ++ Utf8.encode b = Utf8.encode (a ++ b) :=
    fun _ _ => List.flatMap_append.symm
  rw [Url.decoded, List.append_assoc, Percent.decode_append_of_notMem (hplain front hfront),
    encodeId, Percent.decode_encode_append isComponentSafe_percent,
    Percent.decode_of_notMem (percent_notMem_ending hending), happend, happend,
    Utf8.decodeLossy_encode, List.append_assoc]

/-- A location tells the identifier together with what stands behind it. -/
theorem eq_of_around_eq {front a b s t : Text} (hfront : front ∈ fronts) (hs : s ∈ endings)
    (ht : t ∈ endings) (h : front ++ encodeId a ++ s = front ++ encodeId b ++ t) :
    a ++ s = b ++ t := by
  have hdecoded := congrArg Url.decoded h
  rw [decoded_around hfront hs, decoded_around hfront ht] at hdecoded
  simpa using hdecoded

/-! The segments of a location. -/

theorem slash_notMem_segment (id : Text) {ending : Text} (h : ending ∈ endings) :
    '/' ∉ encodeId id ++ ending :=
  List.not_mem_append (notMem_encodeId (by decide) id) (notMem_ending (by decide) h)

theorem splitAt_underRoute (id : Text) {ending : Text} (h : ending ∈ endings) :
    splitAt '/' (underRoute ending id) = [[], ['d', 'o', 't'], encodeId id ++ ending] := by
  have hroute : '/' ∉ ['d', 'o', 't'] := by decide
  have hsplit := splitAt_append_cons hroute (encodeId id ++ ending)
  rw [splitAt_of_notMem (slash_notMem_segment id h)] at hsplit
  have hroot := splitAt_append_cons (List.not_mem_nil (a := '/'))
    (['d', 'o', 't'] ++ '/' :: (encodeId id ++ ending))
  rw [hsplit] at hroot
  simpa [underRoute, artifactRoute] using hroot

theorem splitAt_atRoot (id : Text) {ending : Text} (h : ending ∈ endings) :
    splitAt '/' (atRoot ending id) = [[], encodeId id ++ ending] := by
  have hroot := splitAt_append_cons (List.not_mem_nil (a := '/')) (encodeId id ++ ending)
  rwa [splitAt_of_notMem (slash_notMem_segment id h)] at hroot

/-! Which locations are the same. -/

theorem eq_of_underRoute_eq {a b s t : Text} (hs : s ∈ endings) (ht : t ∈ endings)
    (h : underRoute s a = underRoute t b) : a ++ s = b ++ t :=
  eq_of_around_eq List.mem_cons_self hs ht h

theorem eq_of_atRoot_eq {a b s t : Text} (hs : s ∈ endings) (ht : t ∈ endings)
    (h : atRoot s a = atRoot t b) : a ++ s = b ++ t :=
  eq_of_around_eq (List.mem_cons_of_mem _ List.mem_cons_self) hs ht h

theorem underRoute_ne_atRoot (a b : Text) {s t : Text} (hs : s ∈ endings) (ht : t ∈ endings) :
    underRoute s a ≠ atRoot t b := by
  intro h
  have hsplit := congrArg (splitAt '/') h
  rw [splitAt_underRoute a hs, splitAt_atRoot b ht] at hsplit
  simp at hsplit

/-! The list of locations. -/

theorem firsts_eq (seen locations : List Text) : firsts seen locations =
    (locations.filter fun location => !seen.contains location).eraseDups := by
  induction locations generalizing seen with
  | nil => rfl
  | cons location rest ih =>
    rw [firsts]
    split
    · rename_i hseen
      rw [ih, List.filter_cons_of_neg (by simpa using hseen)]
    · rename_i hnew
      have hrest : (rest.filter fun other => !(location :: seen).contains other) =
          (rest.filter fun other => !seen.contains other).filter (! · == location) := by
        rw [List.filter_filter]
        refine List.filter_congr fun other _ => ?_
        rw [List.contains_cons, Bool.not_or]
      rw [ih, List.filter_cons_of_pos (by simpa using hnew), List.eraseDups_cons, hrest]

/-- A location that is given again later is not repeated. -/
theorem locationsBy_eq (gens : List Generator) (id : Text) :
    locationsBy gens id = (gens.map fun generate => generate id).eraseDups := by
  rw [locationsBy, firsts_eq, List.filter_eq_self.mpr (by simp)]

/-- The locations that every identifier has. -/
def regular (id : Text) : List Text :=
  (endings.map fun ending => underRoute ending id) ++
    rootEndings.map fun ending => atRoot ending id

theorem mem_regular_iff {id location : Text} :
    location ∈ regular id ↔ (∃ ending ∈ endings, underRoute ending id = location) ∨
      ∃ ending ∈ rootEndings, atRoot ending id = location := by
  rw [regular, List.mem_append, List.mem_map, List.mem_map]

theorem nodup_regular (id : Text) : (regular id).Nodup := by
  refine List.Nodup.append (List.Nodup.map_on ?_ (by decide)) (List.Nodup.map_on ?_ (by decide)) ?_
  · intro s hs t ht h
    exact List.append_cancel_left (eq_of_underRoute_eq hs ht h)
  · intro s hs t ht h
    exact List.append_cancel_left
      (eq_of_atRoot_eq (mem_endings_of_root s hs) (mem_endings_of_root t ht) h)
  · intro location hunder hat
    obtain ⟨s, hs, rfl⟩ := List.mem_map.mp hunder
    obtain ⟨t, ht, heq⟩ := List.mem_map.mp hat
    exact underRoute_ne_atRoot id id hs (mem_endings_of_root t ht) heq.symm

/-- The flat form is new just if there is a slash to flatten. -/
theorem flattened_mem_regular_iff (id : Text) : flattened id ∈ regular id ↔ '/' ∉ id := by
  have htree : treeDot ∈ endings := List.mem_cons_self
  rw [flattened_eq]
  constructor
  · intro hmem hslash
    rcases mem_regular_iff.mp hmem with ⟨ending, hending, heq⟩ | ⟨ending, hending, heq⟩
    · have hflat := eq_of_underRoute_eq hending htree heq
      have hthere : '/' ∈ underscored id ++ treeDot := hflat ▸ List.mem_append_left _ hslash
      exact List.not_mem_append (slash_notMem_underscored id) (by decide) hthere
    · exact underRoute_ne_atRoot _ _ htree (mem_endings_of_root ending hending) heq.symm
  · intro hslash
    rw [underscored_of_notMem hslash]
    exact List.mem_cons_self

theorem locations_eq (id : Text) :
    locations id = regular id ++ if '/' ∈ id then [flattened id] else [] := by
  have hagain : underRoute treeDot id ∈ regular id := List.mem_cons_self
  have hwritten : locations id =
      (regular id ++ [underRoute treeDot id] ++ [flattened id]).eraseDups := by
    rw [locations, locationsBy_eq]
    rfl
  have hflat : flattened id ∈ regular id ++ [underRoute treeDot id] ↔ '/' ∉ id := by
    rw [← flattened_mem_regular_iff, List.mem_append, List.mem_singleton, or_iff_left_of_imp]
    rintro heq
    rwa [heq]
  rw [hwritten, Graph.eraseDups_concat, Graph.eraseDups_concat, if_pos hagain,
    Graph.eraseDups_of_nodup (nodup_regular id)]
  by_cases hslash : '/' ∈ id
  · rw [if_neg (by simpa [hflat] using hslash), if_pos hslash]
  · rw [if_pos (hflat.mpr hslash), if_neg hslash, List.append_nil]

theorem exists_of_mem_locations {id location : Text} (h : location ∈ locations id) :
    ∃ front ∈ fronts, ∃ ending ∈ endings, ∃ name, front ++ encodeId name ++ ending = location := by
  have hunder : ∀ ending ∈ endings, ∀ name, ∃ front ∈ fronts, ∃ ending' ∈ endings,
      ∃ name', front ++ encodeId name' ++ ending' = underRoute ending name :=
    fun ending hending name => ⟨_, List.mem_cons_self, ending, hending, name, rfl⟩
  rw [locations_eq] at h
  rcases List.mem_append.mp h with hregular | hflat
  · rcases mem_regular_iff.mp hregular with ⟨ending, hending, rfl⟩ | ⟨ending, hending, rfl⟩
    · exact hunder ending hending id
    · exact ⟨['/'], by decide, ending, mem_endings_of_root ending hending, id, rfl⟩
  · split at hflat
    · rw [List.mem_singleton.mp hflat, flattened_eq]
      exact hunder treeDot List.mem_cons_self (underscored id)
    · exact absurd hflat List.not_mem_nil

theorem nodup_locations (id : Text) : (locations id).Nodup := by
  rw [locations, locationsBy_eq]
  exact Graph.nodup_eraseDups _

/-! What the server takes a location for. -/

/-- No route but that of the artifacts has a path with such an ending. -/
theorem artifact_of_ending {ending path : Text} (hending : ending ∈ endings)
    (hpath : ending <:+ path) {route : Route} {methods : List String}
    (h : Route.ofPath? path = some (route, methods)) : ∃ file, route = .artifact file := by
  have hfixed : ∀ entry ∈ Route.fixed, ∀ ending ∈ endings,
      ¬ ending <:+ entry.1.toList ∧ ¬ ending <:+ entry.1.toList ++ ['\n'] := by
    decide +kernel
  unfold Route.ofPath? at h
  split at h
  · rename_i hfound
    obtain ⟨hplain, hfeed⟩ := hfixed _ (List.mem_of_find?_eq_some hfound) ending hending
    have hsame := List.find?_some hfound
    rcases (Bool.or_eq_true _ _).mp hsame with heq | heq
    · exact absurd (eq_of_beq heq ▸ hpath) hplain
    · exact absurd (eq_of_beq heq ▸ hpath) hfeed
  · obtain ⟨file, _, heq⟩ := Option.map_eq_some_iff.mp h
    exact ⟨file, (congrArg Prod.fst heq).symm⟩

/-- A location that is one name at the root or behind the route of the artifacts, and is the path
of no other route, as it is written and as it is read. -/
structure WellFormed (location : Text) : Prop where
  query_notMem : '?' ∉ location
  fragment_notMem : '#' ∉ location
  segments : ∃ segment, splitAt '/' location = [[], segment] ∨
    splitAt '/' location = [[], ['d', 'o', 't'], segment]
  route : ∀ path ∈ [location, Url.decoded location], ∀ route methods,
    Route.ofPath? path = some (route, methods) → ∃ file, route = .artifact file

theorem notMem_location {c : Char} (hc : c ∉ '%' :: Percent.plainChars)
    (hfronts : ∀ front ∈ fronts, c ∉ front) {front ending : Text} (hfront : front ∈ fronts)
    (hending : ending ∈ endings) (name : Text) : c ∉ front ++ encodeId name ++ ending :=
  List.not_mem_append (List.not_mem_append (hfronts front hfront) (notMem_encodeId hc name))
    (notMem_ending hc hending)

theorem wellFormed_of_parts {front ending : Text} (hfront : front ∈ fronts)
    (hending : ending ∈ endings) (name : Text) :
    WellFormed (front ++ encodeId name ++ ending) where
  query_notMem := notMem_location (by decide) (by decide) hfront hending name
  fragment_notMem := notMem_location (by decide) (by decide) hfront hending name
  segments := by
    refine ⟨encodeId name ++ ending, ?_⟩
    rcases List.mem_cons.mp hfront with rfl | hroot
    · exact .inr (splitAt_underRoute name hending)
    · rw [List.mem_singleton.mp hroot]
      exact .inl (splitAt_atRoot name hending)
  route := by
    have hends : ∀ path ∈ [front ++ encodeId name ++ ending, front ++ name ++ ending],
        ending <:+ path :=
      List.forall_mem_cons.mpr ⟨List.suffix_append _ _,
        List.forall_mem_singleton.mpr (List.suffix_append _ _)⟩
    rw [decoded_around hfront hending]
    exact fun path hpath route methods => artifact_of_ending hending (hends path hpath)

/-- The encoded form of an identifier consists of plain characters and of percent signs with two
digits, and the identifier is read from it. An identifier has five locations, all different, and a
sixth one with underscores for the slashes if there are any. Each is a single name at the root or
behind the route of the artifacts, and is taken for nothing else. -/
theorem locations_wellFormed (id : Text) :
    Percent.Encoded (encodeId id) ∧
    Utf8.decode? (Percent.decode (encodeId id)) = some id ∧
    (∀ other, encodeId other = encodeId id → other = id) ∧
    (locations id).Nodup ∧
    locations id =
      ["/dot/".toList ++ encodeId id ++ ".tree.dot".toList,
       "/dot/".toList ++ encodeId id ++ ".dot".toList,
       "/dot/".toList ++ encodeId id ++ ".tree.dot.txt".toList,
       "/".toList ++ encodeId id ++ ".tree.dot".toList,
       "/".toList ++ encodeId id ++ ".dot".toList] ++
      (if '/' ∈ id then ["/dot/".toList ++ encodeId (underscored id) ++ ".tree.dot".toList]
        else []) ∧
    ∀ location ∈ locations id, WellFormed location := by
  refine ⟨encoded_encodeId id, decode?_encodeId id, ?_, nodup_locations id, ?_, ?_⟩
  · intro other h
    have hread := decode?_encodeId other
    rw [h, decode?_encodeId id] at hread
    exact (Option.some.inj hread).symm
  · rw [locations_eq, flattened_eq]
    rfl
  · intro location h
    obtain ⟨front, hfront, ending, hending, name, rfl⟩ := exists_of_mem_locations h
    exact wellFormed_of_parts hfront hending name

/-- An identifier that holds a percent sign with digits, a slash, a character of two bytes and the
marks of a query and a fragment. -/
example : locations "a%2F/é?#".toList =
    ["/dot/a%252F%2F%C3%A9%3F%23.tree.dot".toList, "/dot/a%252F%2F%C3%A9%3F%23.dot".toList,
     "/dot/a%252F%2F%C3%A9%3F%23.tree.dot.txt".toList, "/a%252F%2F%C3%A9%3F%23.tree.dot".toList,
     "/a%252F%2F%C3%A9%3F%23.dot".toList, "/dot/a%252F__%C3%A9%3F%23.tree.dot".toList] := by
  rfl

end Overlay

end DepView
