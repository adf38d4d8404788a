import PoliteCrawl.CrawlUri
import PoliteCrawl.Proofs.Url.Host

set_option autoImplicit false

namespace PoliteCrawl.Url

-- A URL of the web with a host: nothing before its path ends the authority or the credentials early.
structure Rooted (url : Url) : Prop where
  web : url.isWeb = true
  path : ∃ names, url.path = .segments names
  username : AllPlain url.username.toList
  password : AllPlain url.password.toList
  host : ∃ host, url.host = some host ∧ host ≠ .domain "" ∧ AllPlain host.text.toList

theorem lower_from_plain (before text : List Char) (plain : AllPlain text) :
    Text.lowerFrom before text = text.map Char.toLower := by
  induction text generalizing before with
  | nil => rfl
  | cons c rest ih =>
      have low := plain_low (plain c List.mem_cons_self)
      have other : ¬ (c == 'Σ') = true := by
        intro same
        rw [beq_iff_eq] at same
        subst same
        exact absurd low (by decide)
      rw [Text.lowerFrom, ih (c :: before) fun d member => plain d (List.mem_cons_of_mem c member)]
      simp only [if_neg other, Text.lowerChar, if_pos low]
      rfl

theorem to_lower_plain (text : String) (plain : AllPlain text.toList) :
    Text.toLower text = String.ofList (text.toList.map Char.toLower) := by
  rw [Text.toLower, lower_from_plain [] text.toList plain]

theorem port_characters (url : Url) (c : Char) (member : c ∈ url.portText.toList) :
    isPlain c = true ∧ c.toLower = c := by
  rw [portText] at member
  cases port : url.port with
  | none =>
      rw [port] at member
      cases member
  | some number =>
      rw [port, String.toList_append] at member
      rcases List.mem_append.mp member with colon | digit
      · rw [List.mem_singleton.mp colon]
        decide
      · have decimal := number_digits number c digit
        exact ⟨decimal_plain c decimal, decimal_lower c decimal⟩

theorem port_plain (url : Url) : AllPlain url.portText.toList :=
  fun c member => (url.port_characters c member).1

theorem to_lower_port (url : Url) (host : String) (plain : AllPlain host.toList) :
    Text.toLower (host ++ url.portText) = Text.toLower host ++ url.portText := by
  have whole : AllPlain (host ++ url.portText).toList := by
    rw [String.toList_append]
    exact plain.append url.port_plain
  have kept : url.portText.toList.map Char.toLower = url.portText.toList :=
    (List.map_congr_left fun c member => (url.port_characters c member).2).trans
      (List.map_id _)
  rw [to_lower_plain _ whole, to_lower_plain _ plain, String.toList_append, List.map_append, kept]
  apply String.toList_inj.mp
  simp only [String.toList_append, String.toList_ofList]

def endsText (c : Char) : Bool :=
  c == '/' || c == '?'

def authorityIn (text : List Char) : List Char :=
  ((text.dropWhile (· != ':')).drop 3).takeWhile (!endsText ·)

def afterLastAt (text : List Char) : List Char :=
  (text.reverse.takeWhile (· != '@')).reverse

def siteIn (text : String) : String :=
  Text.toLower (String.ofList (afterLastAt (authorityIn text.toList)))

theorem authority_in (scheme authority rest : List Char) (plain : ∀ c ∈ scheme, c ≠ ':')
    (inside : ∀ c ∈ authority, endsText c = false) (ends : ∀ c ∈ rest.head?, endsText c = true) :
    authorityIn (scheme ++ ':' :: '/' :: '/' :: (authority ++ rest)) = authority := by
  have skipped : (scheme ++ ':' :: '/' :: '/' :: (authority ++ rest)).dropWhile (· != ':') =
      ':' :: '/' :: '/' :: (authority ++ rest) := by
    rw [List.dropWhile_append_of_pos fun c member => bne_iff_ne.mpr (plain c member)]
    rfl
  have stops : rest.takeWhile (!endsText ·) = [] := by
    cases rest with
    | nil => rfl
    | cons c others =>
        have first := ends c rfl
        rw [List.takeWhile_cons, first]
        rfl
  rw [authorityIn, skipped]
  change (authority ++ rest).takeWhile (!endsText ·) = authority
  rw [List.takeWhile_append_of_pos fun c member => by rw [inside c member]; rfl, stops,
    List.append_nil]

theorem after_last_at (credentials host : List Char)
    (ends : credentials = [] ∨ ∃ inside, credentials = inside ++ ['@'])
    (plain : ∀ c ∈ host, c ≠ '@') : afterLastAt (credentials ++ host) = host := by
  have stops : credentials.reverse.takeWhile (· != '@') = [] := by
    rcases ends with none | ⟨inside, some⟩
    · rw [none]
      rfl
    · rw [some, List.reverse_append]
      rfl
  rw [afterLastAt, List.reverse_append, List.takeWhile_append_of_pos fun c member =>
    bne_iff_ne.mpr (plain c (List.mem_reverse.mp member)), stops, List.append_nil,
    List.reverse_reverse]

theorem plain_outside {c : Char} (plain : isPlain c = true) : endsText c = false ∧ c ≠ '@' := by
  simp only [isPlain, endsText] at plain ⊢
  grind

theorem credentials_text (url : Url) (rooted : Rooted url) :
    (url.credentialsText.toList = [] ∨ ∃ inside, url.credentialsText.toList = inside ++ ['@']) ∧
      ∀ c ∈ url.credentialsText.toList, endsText c = false := by
  have username := rooted.username
  have password := rooted.password
  have at_ : endsText '@' = false := rfl
  have colon : endsText ':' = false := rfl
  rw [credentialsText]
  by_cases none : (url.username == "" && url.password == "") = true
  · rw [if_pos none]
    exact ⟨.inl rfl, by simp⟩
  · rw [if_neg none]
    by_cases open_ : (url.password == "") = true
    · rw [if_pos open_, String.toList_append]
      refine ⟨.inr ⟨_, rfl⟩, fun c member => ?_⟩
      rcases List.mem_append.mp member with name | last
      · exact (plain_outside (username c name)).1
      · exact (List.mem_singleton.mp last) ▸ at_
    · rw [if_neg open_]
      simp only [String.toList_append]
      refine ⟨.inr ⟨_, rfl⟩, fun c member => ?_⟩
      simp only [List.mem_append] at member
      rcases member with ((name | mark) | secret) | last
      · exact (plain_outside (username c name)).1
      · exact (List.mem_singleton.mp mark) ▸ colon
      · exact (plain_outside (password c secret)).1
      · exact (List.mem_singleton.mp last) ▸ at_

theorem web_scheme (url : Url) (web : url.isWeb = true) : ∀ c ∈ url.scheme.toList, c ≠ ':' := by
  simp only [isWeb, Bool.or_eq_true, beq_iff_eq] at web
  rcases web with plain | secure
  · rw [plain]
    simp
  · rw [secure]
    simp

theorem tail_ends (url : Url) (names : List String) (path : url.path = .segments names) :
    ∀ c ∈ (url.path.text.toList ++ url.queryText.toList).head?, endsText c = true := by
  rw [path]
  cases names with
  | nil =>
      rw [queryText]
      cases url.query with
      | none => simp [Path.text]
      | some query =>
          intro c first
          simp [Path.text] at first
          exact first ▸ rfl
  | cons name rest =>
      intro c first
      simp [Path.text, String.join_cons] at first
      exact first ▸ rfl

theorem uniq_key_text (url : Url) (host : Host) (names : List String)
    (path : url.path = .segments names) (named : url.host = some host) :
    url.uniqKey.toList = url.scheme.toList ++ ':' :: '/' :: '/' ::
      ((url.credentialsText.toList ++ (host.text.toList ++ url.portText.toList)) ++
        (url.path.text.toList ++ url.queryText.toList)) := by
  have bare : url.withoutFragment = { url with fragment := none } := by
    rw [withoutFragment, path]
  simp [uniqKey, bare, text, authorityText, fragmentText, credentialsText, portText, queryText,
    named, String.toList_append]

theorem named_text (url : Url) (host : Host) (named : url.host = some host)
    (real : host ≠ .domain "") : url.hostText? = some host.text := by
  rw [hostText?, named]
  split
  · rename_i same
    cases same
    exact absurd rfl real
  · rename_i same
    cases same
    rfl
  · rename_i none
    cases none

theorem Rooted.site {url : Url} (rooted : Rooted url) : url.siteKey? = some (siteIn url.uniqKey) := by
  obtain ⟨names, path⟩ := rooted.path
  obtain ⟨host, named, real, plain⟩ := rooted.host
  obtain ⟨ends, inside⟩ := url.credentials_text rooted
  have hostText := url.named_text host named real
  have outside : ∀ c ∈ host.text.toList ++ url.portText.toList, endsText c = false ∧ c ≠ '@' :=
    fun c member => plain_outside ((plain.append url.port_plain) c member)
  have authority := authority_in url.scheme.toList
    (url.credentialsText.toList ++ (host.text.toList ++ url.portText.toList))
    (url.path.text.toList ++ url.queryText.toList) (url.web_scheme rooted.web)
    (fun c member => (List.mem_append.mp member).elim (inside c) fun later => (outside c later).1)
    (url.tail_ends names path)
  have hostIn := after_last_at url.credentialsText.toList
    (host.text.toList ++ url.portText.toList) ends fun c member => (outside c member).2
  have whole : String.ofList (host.text.toList ++ url.portText.toList) = host.text ++ url.portText := by
    apply String.toList_inj.mp
    simp only [String.toList_ofList, String.toList_append]
  rw [siteKey?, hostText, siteIn, uniq_key_text url host names path named, authority, hostIn, whole,
    to_lower_port url host.text plain]
  rfl

theorem take_credentials_plain (kind : SchemeKind) (text rest : List Char)
    (credentials : Credentials) (read : takeCredentials kind text = .ok (credentials, rest)) :
    AllPlain credentials.username.toList ∧ AllPlain credentials.password.toList := by
  have none : AllPlain noCredentials.username.toList ∧ AllPlain noCredentials.password.toList :=
    ⟨.nil, .nil⟩
  have encoded (letters : List Char) : AllPlain (encodeCredential letters).toList := by
    rw [encodeCredential, String.toList_ofList]
    exact credentials_plain letters
  simp only [takeCredentials] at read
  split at read
  · cases read
    exact none
  · split at read
    · cases read
      exact none
    · cases read
  · cases read
    exact ⟨encoded _, encoded _⟩

theorem authority_shape (scheme : String) (text : List Char) (url : Url)
    (read : parseAuthority scheme text = .ok url) :
    ∃ credentials rest name host port tail,
      takeCredentials (schemeKind scheme) text = .ok (credentials, rest) ∧
      readHost (schemeKind scheme) name = .ok host ∧
      url = finish (schemeKind scheme) scheme credentials (some host) port tail := by
  simp only [parseAuthority, bind, Except.bind] at read
  cases taken : takeCredentials (schemeKind scheme) text with
  | error cause =>
      rw [taken] at read
      cases read
  | ok pair =>
      obtain ⟨credentials, rest⟩ := pair
      rw [taken] at read
      simp only at read
      cases parsed : readHost (schemeKind scheme) (takeHost (schemeKind scheme) false rest).1 with
      | error cause =>
          rw [parsed] at read
          cases read
      | ok host =>
          rw [parsed] at read
          simp only at read
          split at read
          · cases read
          · split at read
            · cases read
            · rename_i ended _
              cases read
              exact ⟨credentials, rest, _, host, ended.1, ended.2, rfl, parsed, rfl⟩

theorem authority_rooted (scheme : String) (text : List Char) (url : Url)
    (kind : schemeKind scheme = .web) (read : parseAuthority scheme text = .ok url)
    (web : url.isWeb = true) : Rooted url := by
  obtain ⟨credentials, rest, name, host, port, tail, taken, parsed, whole⟩ :=
    authority_shape scheme text url read
  rw [kind] at taken parsed whole
  obtain ⟨username, password⟩ := take_credentials_plain .web text rest credentials taken
  have plain : AllPlain host.text.toList ∧ host ≠ .domain "" := by
    simp only [readHost, SchemeKind.isSpecial, if_true] at parsed
    by_cases none : name.isEmpty = true
    · rw [if_pos none] at parsed
      cases parsed
    · rw [if_neg none] at parsed
      exact host_plain name host parsed
  refine ⟨web, ?_, ?_, ?_, host, ?_, plain.2, plain.1⟩
  · simp [whole, finish, readPath, SchemeKind.isSpecial]
  · rw [whole]
    exact username
  · rw [whole]
    exact password
  · simp only [whole, finish]

theorem finish_file_scheme (host : Host) (text : List Char) :
    (finishFile host text).scheme = "file" := by
  rw [finishFile]
  split
  · split <;> rfl
  · rfl

theorem file_scheme (text : List Char) (url : Url) (read : parseFile text = .ok url) :
    url.scheme = "file" := by
  unfold parseFile at read
  split at read
  · split at read
    · simp only at read
      split at read
      · cases read
        exact finish_file_scheme _ _
      · rename_i first second rest _ _
        simp only [bind, Except.bind] at read
        cases parsed : readFileHost (rest.takeWhile (!endsFileHost ·)) with
        | error cause =>
            rw [parsed] at read
            cases read
        | ok host =>
            rw [parsed] at read
            cases read
            exact finish_file_scheme _ _
    · cases read
      exact finish_file_scheme _ _
  · cases read
    exact finish_file_scheme _ _

theorem bare_scheme (scheme : String) (text : List Char) :
    (parseBare scheme text).scheme = scheme := by
  unfold parseBare
  split <;> rfl

theorem web_kind (url : Url) (web : url.isWeb = true) : schemeKind url.scheme = .web := by
  simp only [isWeb, Bool.or_eq_true, beq_iff_eq] at web
  rcases web with plain | secure
  · rw [plain]
    decide
  · rw [secure]
    decide

theorem parse_rooted (text : String) (url : Url) (read : Url.parse text = .ok url)
    (web : url.isWeb = true) : Rooted url := by
  have kind := web_kind url web
  rw [Url.parse] at read
  cases split : splitScheme? (significant text.toList) with
  | none =>
      rw [split] at read
      cases read
  | some pair =>
      obtain ⟨scheme, rest⟩ := pair
      rw [split] at read
      simp only at read
      cases group : schemeKind scheme with
      | web =>
          rw [group] at read
          exact authority_rooted scheme _ url group read web
      | file =>
          rw [group] at read
          rw [file_scheme rest url read] at kind
          exact absurd kind (by decide)
      | other =>
          rw [group] at read
          have same : url.scheme = scheme := by
            simp only at read
            split at read
            · obtain ⟨_, _, _, _, _, _, _, _, whole⟩ := authority_shape scheme _ url read
              rw [whole, finish]
            · cases read
              exact bare_scheme scheme rest
          rw [same, group] at kind
          cases kind

end PoliteCrawl.Url
