import OpenchamiOperator.Lib.Printf
import OpenchamiOperator.Lib.Sql

/-! # The scripts of `ochami-admin logs`

`logsOpts` of `internal/admin/logs.go`: what `query` and `export` accept, and the script for DuckDB
that they hand to the runner. The runner itself is left out, and the environment is a function.

* `assembleSQL_eq`: the script without `--sql` is the prelude and the query, as they were built.
* `lexes_logsBuildSQL`, `lexes_logsBuildPrelude`: the tokens of the two parts.
* `exportWrapper_copies_iff`: which output paths the wrapper of an export writes to. -/

namespace OpenchamiOperator.Admin

open Lib Strings Strconv

/-! ### Flags -/

/-- `logsOpts`, with the defaults of the flags. -/
structure LogsOpts where
  cp : String := ""
  s3Endpoint : String := ""
  s3Bucket : String := ""
  s3AccessKey : String := ""
  s3SecretKey : String := ""
  sqlOverride : String := ""
  service : String := ""
  since : String := ""
  /-- The field `until`, which is a keyword here. -/
  untilTime : String := ""
  limit : ℤ := 100
  duckdbPath : String := "duckdb"
  format : String := "csv"
  output : String := "-"

/-- `logsEscapeSQLString`. -/
def logsEscapeSQLString (s : String) : String :=
  String.ofList (s.toList.flatMap fun c => if c = '\'' then "''".toList else [c])

/-- `logsParseEndpoint`: the host, and whether the scheme is that of TLS. -/
def logsParseEndpoint (endpoint : String) : Except String (String × Bool) :=
  if endpoint = "" then .error "s3 endpoint is empty"
  else if hasPrefix endpoint "https://" then .ok (trimPrefix endpoint "https://", true)
  else if hasPrefix endpoint "http://" then .ok (trimPrefix endpoint "http://", false)
  else .ok (endpoint, false)

def logsBuildPrelude (endpoint access secret : String) : Except String String := do
  let (host, useSSL) ← logsParseEndpoint endpoint
  return "INSTALL httpfs;\nLOAD httpfs;\n" ++
    ("SET s3_endpoint='" ++ logsEscapeSQLString host ++ "';\n") ++
    ("SET s3_use_ssl=" ++ (if useSSL then "true" else "false") ++ ";\n") ++
    "SET s3_url_style='path';\n" ++
    ("SET s3_access_key_id='" ++ logsEscapeSQLString access ++ "';\n") ++
    ("SET s3_secret_access_key='" ++ logsEscapeSQLString secret ++ "';\n")

def logsBuildSQL (bucket service since untilTime : String) (limit : ℤ) : String :=
  "SELECT *\nFROM read_parquet('s3://" ++ logsEscapeSQLString bucket ++
    "/**/*.parquet')\nWHERE 1=1" ++
    (if service ≠ "" then "\n  AND service = '" ++ logsEscapeSQLString service ++ "'" else "") ++
    (if since ≠ "" then "\n  AND ts >= '" ++ logsEscapeSQLString since ++ "'" else "") ++
    (if untilTime ≠ "" then "\n  AND ts <  '" ++ logsEscapeSQLString untilTime ++ "'" else "") ++
    "\nORDER BY ts DESC" ++
    (if 0 < limit then "\nLIMIT " ++ formatInt limit else "")

namespace LogsOpts

variable (isPrint : Char → Bool) (getenv : String → String) (o : LogsOpts)

def resolveBucket : String := if o.s3Bucket ≠ "" then o.s3Bucket else o.cp ++ "-logs"

def resolveCredentials : String × String :=
  (if o.s3AccessKey = "" then getenv "OPENCHAMI_S3_ACCESS_KEY" else o.s3AccessKey,
    if o.s3SecretKey = "" then getenv "OPENCHAMI_S3_SECRET_KEY" else o.s3SecretKey)

/-- The query, before and after `assembleSQL` trims it. -/
def body : String :=
  let body :=
    if o.sqlOverride = "" then
      logsBuildSQL o.resolveBucket o.service o.since o.untilTime o.limit
    else o.sqlOverride
  trimRight (trimSpace body) ";"

def assembleSQL (wrap : String) : Except String String := do
  let body := if wrap ≠ "" then Printf.sprintf isPrint [o.body] wrap else o.body
  let (access, secret) := o.resolveCredentials getenv
  let prelude ← logsBuildPrelude o.s3Endpoint access secret
  return prelude ++ body ++ ";\n"

def exportWrapper : String :=
  let target := if o.output = "-" then "/dev/stdout" else o.output
  "COPY (%s) TO '" ++ logsEscapeSQLString target ++ "' (FORMAT '" ++
    logsEscapeSQLString o.format ++ "')"

def validate : Except String Unit :=
  if o.cp = "" then .error "--cluster is required"
  else if o.s3Endpoint = "" then .error "--s3-endpoint is required"
  else if o.sqlOverride ≠ "" ∧ (o.service ≠ "" ∨ o.since ≠ "" ∨ o.untilTime ≠ "") then
    .error "--sql is mutually exclusive with --service/--since/--until"
  else .ok ()

def validateExport : Except String Unit :=
  if o.format ∉ ["csv", "json", "parquet"] then
    .error ("--format " ++ quote isPrint o.format ++
      " is invalid; must be one of: csv, json, parquet")
  else if o.output = "" then .error "--output is required"
  else .ok ()

/-- What a command does before it returns what the runner returns. -/
structure Dispatch where
  /-- `logsDuckDBBinary`. -/
  binary : String
  /-- The line on standard error. -/
  notice : String
  sql : String

def runQuery : Except String Dispatch := do
  o.validate
  let sql ← o.assembleSQL isPrint getenv ""
  return { binary := o.duckdbPath, sql
           notice := "querying logs in bucket " ++ quote isPrint o.resolveBucket ++ " via " ++
             o.s3Endpoint ++ "\n" }

def runExport : Except String Dispatch := do
  o.validate
  o.validateExport isPrint
  let sql ← o.assembleSQL isPrint getenv o.exportWrapper
  return { binary := o.duckdbPath, sql
           notice := "exporting logs (format=" ++ o.format ++ ") to " ++ o.output ++ "\n" }

end LogsOpts

/-! ### The parts of the script -/

theorem not_isSpace_of_isDigit {d : Char} (h : d.isDigit = true) : isSpace d = false := by
  simp only [Char.isDigit, Bool.and_eq_true, decide_eq_true_eq] at h
  have hlow : 48 ≤ d.toNat := UInt32.le_iff_toNat_le.mp h.1
  have hhigh : d.toNat ≤ 57 := UInt32.le_iff_toNat_le.mp h.2
  simp only [isSpace, List.mem_cons, List.not_mem_nil, or_false, Bool.or_eq_false_iff,
    decide_eq_false_iff_not, Bool.and_eq_false_iff]
  omega

theorem logsBuildSQL_front (bucket service since untilTime : String) (limit : ℤ) :
    ∃ rest, logsBuildSQL bucket service since untilTime limit =
      "SELECT *\nFROM read_parquet('s3://" ++ rest := by
  unfold logsBuildSQL
  simp only [String.append_assoc]
  exact ⟨_, rfl⟩

/-- A query ends with a word or a numeral, so that there is nothing to trim. -/
theorem logsBuildSQL_last (bucket service since untilTime : String) (limit : ℤ) :
    ∃ back d, (logsBuildSQL bucket service since untilTime limit).toList = back ++ [d] ∧
      isSpace d = false ∧ d ∉ ";".toList := by
  obtain ⟨front, hfront⟩ : ∃ front, logsBuildSQL bucket service since untilTime limit =
      front ++ "\nORDER BY ts DESC" ++ (if 0 < limit then "\nLIMIT " ++ formatInt limit else "") :=
    ⟨_, rfl⟩
  rw [hfront]
  by_cases hpos : 0 < limit
  · have hdigits : formatInt limit = limit.natAbs.repr := by
      rw [formatInt, if_neg (by omega)]
    rcases (Nat.toDigits 10 limit.natAbs).eq_nil_or_concat with hnil | ⟨ds, d, hlist⟩
    · exact absurd hnil Nat.toDigits_ne_nil
    · have hd : d.isDigit = true :=
        List.all_eq_true.mp (all_isDigit_toDigits limit.natAbs) d (by simp [hlist])
      refine ⟨(front ++ "\nORDER BY ts DESC" ++ "\nLIMIT ").toList ++ ds, d, ?_,
        not_isSpace_of_isDigit hd, ?_⟩
      · rw [if_pos hpos, hdigits]
        simp [hlist]
      · intro hsemi
        obtain rfl : d = ';' := by simpa using hsemi
        exact absurd hd (by decide)
  · refine ⟨front.toList ++ "\nORDER BY ts DES".toList, 'C', ?_, by decide, by decide⟩
    simp [hpos]

theorem LogsOpts.body_eq {o : LogsOpts} (h : o.sqlOverride = "") :
    o.body = logsBuildSQL o.resolveBucket o.service o.since o.untilTime o.limit := by
  obtain ⟨back, d, hback, hspace, hsemi⟩ :=
    logsBuildSQL_last o.resolveBucket o.service o.since o.untilTime o.limit
  obtain ⟨rest, hrest⟩ :=
    logsBuildSQL_front o.resolveBucket o.service o.since o.untilTime o.limit
  have hfront : (logsBuildSQL o.resolveBucket o.service o.since o.untilTime o.limit).toList =
      'S' :: ("ELECT *\nFROM read_parquet('s3://".toList ++ rest.toList) := by
    rw [hrest, String.toList_append]
    exact congrArg (· ++ rest.toList) (by decide : "SELECT *\nFROM read_parquet('s3://".toList =
      'S' :: "ELECT *\nFROM read_parquet('s3://".toList)
  rw [LogsOpts.body, if_pos h, trimSpace_eq_self hfront (by decide) hback hspace,
    trimRight_eq_self hback hsemi]

/-- The endpoint is a host, after its scheme if it has one. -/
def SplitsEndpoint (endpoint host : String) (useSSL : Bool) : Prop :=
  endpoint = "https://" ++ host ∧ useSSL = true ∨
  endpoint = "http://" ++ host ∧ useSSL = false ∨
  endpoint = host ∧ useSSL = false ∧
    ∀ rest, endpoint ≠ "https://" ++ rest ∧ endpoint ≠ "http://" ++ rest

theorem logsParseEndpoint_splits {endpoint : String} (h : endpoint ≠ "") :
    ∃ host useSSL, logsParseEndpoint endpoint = .ok (host, useSSL) ∧
      SplitsEndpoint endpoint host useSSL := by
  unfold logsParseEndpoint
  rw [if_neg h]
  by_cases hhttps : hasPrefix endpoint "https://" = true
  · obtain ⟨rest, rfl⟩ := hasPrefix_iff.mp hhttps
    rw [if_pos hhttps, trimPrefix_append]
    exact ⟨rest, true, rfl, .inl ⟨rfl, rfl⟩⟩
  rw [if_neg hhttps]
  by_cases hhttp : hasPrefix endpoint "http://" = true
  · obtain ⟨rest, rfl⟩ := hasPrefix_iff.mp hhttp
    rw [if_pos hhttp, trimPrefix_append]
    exact ⟨rest, false, rfl, .inr (.inl ⟨rfl, rfl⟩)⟩
  rw [if_neg hhttp]
  refine ⟨endpoint, false, rfl, .inr (.inr ⟨rfl, rfl, fun rest => ⟨?_, ?_⟩⟩)⟩
  · exact fun heq => hhttps (hasPrefix_iff.mpr ⟨rest, heq⟩)
  · exact fun heq => hhttp (hasPrefix_iff.mpr ⟨rest, heq⟩)

/-! ### The tokens of the script -/

section Tokens

open Sql

/-- A filter of the query, if the flag is set. -/
def filterTokens (column op value : String) : List Token :=
  if value ≠ "" then [.word "AND", .word column, .op op, .literal value] else []

def selectTokens (bucket service since untilTime : String) (limit : ℤ) : List Token :=
  [.word "SELECT", .op "*", .word "FROM", .word "read_parquet", .op "(",
    .literal ("s3://" ++ bucket ++ "/**/*.parquet"), .op ")",
    .word "WHERE", .number "1", .op "=", .number "1"] ++
  filterTokens "service" "=" service ++ filterTokens "ts" ">=" since ++
  filterTokens "ts" "<" untilTime ++
  [.word "ORDER", .word "BY", .word "ts", .word "DESC"] ++
  if 0 < limit then [.word "LIMIT", .number (formatInt limit)] else []

def settingTokens (name : String) (value : Token) : List Token :=
  [.word "SET", .word name, .op "=", value, .op ";"]

def preludeTokens (host : String) (useSSL : Bool) (access secret : String) : List Token :=
  [.word "INSTALL", .word "httpfs", .op ";", .word "LOAD", .word "httpfs", .op ";"] ++
  settingTokens "s3_endpoint" (.literal host) ++
  settingTokens "s3_use_ssl" (.word (if useSSL then "true" else "false")) ++
  settingTokens "s3_url_style" (.literal "path") ++
  settingTokens "s3_access_key_id" (.literal access) ++
  settingTokens "s3_secret_access_key" (.literal secret)

theorem toList_logsEscapeSQLString (s : String) :
    (logsEscapeSQLString s).toList = Sql.escape s.toList := by
  rw [logsEscapeSQLString, String.toList_ofList]
  rfl

/-- A literal at the end of a line of its own. -/
theorem lexes_filter (column op lead : String) (hline : lead.toList.head? = some '\n')
    (hlead : Lexer.start.scan lead.toList = (.literal [], [.word "AND", .word column, .op op]))
    (value : String) {s : List Char} {ts : List Token} (h : Lexes s ts) :
    Lexes (s ++ (if value ≠ "" then lead ++ logsEscapeSQLString value ++ "'" else "").toList)
      (ts ++ filterTokens column op value) := by
  unfold filterTokens
  by_cases hvalue : value = ""
  · simpa [hvalue] using h
  · obtain ⟨rest, hrest⟩ : ∃ rest, lead.toList = '\n' :: rest := by
      rcases hlist : lead.toList with _ | ⟨c, rest⟩
      · rw [hlist] at hline
        cases hline
      · rw [hlist] at hline
        exact ⟨rest, by rw [Option.some.inj hline]⟩
    have hliteral := Lexes.literal hlead value.toList .nil (by simp)
    rw [hrest, List.cons_append] at hliteral
    have hjoined := h.separated (by decide) hliteral
    simpa [hvalue, toList_logsEscapeSQLString, hrest] using hjoined

theorem lexes_limit (limit : ℤ) {s : List Char} {ts : List Token} (h : Lexes s ts) :
    Lexes (s ++ (if 0 < limit then "\nLIMIT " ++ formatInt limit else "").toList)
      (ts ++ if 0 < limit then [.word "LIMIT", .number (formatInt limit)] else []) := by
  by_cases hpos : 0 < limit
  · have hdigits : formatInt limit = limit.natAbs.repr := by
      rw [formatInt, if_neg (by omega)]
    have hlead : Lexer.start.scan "LIMIT ".toList = (.start, [.word "LIMIT"]) := by decide
    have hline := h.newline
      (.number hlead Nat.toDigits_ne_nil (all_isDigit_toDigits limit.natAbs))
    rw [← Nat.toList_repr, ← hdigits, String.ofList_toList] at hline
    simpa [hpos] using hline
  · simpa [hpos] using h

theorem lexes_logsBuildSQL (bucket service since untilTime : String) (limit : ℤ) :
    Lexes (logsBuildSQL bucket service since untilTime limit).toList
      (selectTokens bucket service since untilTime limit) := by
  have hglob : Sql.escape (bucket ++ "/**/*.parquet").toList =
      (logsEscapeSQLString bucket).toList ++ "/**/*.parquet".toList := by
    rw [String.toList_append, toList_logsEscapeSQLString, Sql.escape, List.flatMap_append]
    exact congrArg _ (escape_of_not_mem (by decide))
  have hfrom : Lexer.start.scan "SELECT *\nFROM read_parquet('s3://".toList =
      (.literal "s3://".toList, [.word "SELECT", .op "*", .word "FROM", .word "read_parquet",
        .op "("]) := by decide
  have hwhere : Lexes ")\nWHERE 1=1".toList
      [.op ")", .word "WHERE", .number "1", .op "=", .number "1"] := ⟨by decide, by decide⟩
  have horder : Lexes "ORDER BY ts DESC".toList
      [.word "ORDER", .word "BY", .word "ts", .word "DESC"] := ⟨by decide, by decide⟩
  have hselect := Lexes.literal hfrom (bucket ++ "/**/*.parquet").toList hwhere (by decide)
  have hservice := lexes_filter "service" "=" "\n  AND service = '" rfl (by decide) service hselect
  have hsince := lexes_filter "ts" ">=" "\n  AND ts >= '" rfl (by decide) since hservice
  have huntil := lexes_filter "ts" "<" "\n  AND ts <  '" rfl (by decide) untilTime hsince
  have hlimit := lexes_limit limit (huntil.newline horder)
  have hliteral : String.ofList ("s3://".toList ++ (bucket ++ "/**/*.parquet").toList) =
      "s3://" ++ bucket ++ "/**/*.parquet" := by
    apply String.toList_injective
    simp
  have htail : "/**/*.parquet')\nWHERE 1=1".toList =
      "/**/*.parquet".toList ++ '\'' :: ")\nWHERE 1=1".toList := by decide
  have horderLine : "\nORDER BY ts DESC".toList = '\n' :: "ORDER BY ts DESC".toList := by decide
  rw [hglob, hliteral] at hlimit
  unfold logsBuildSQL selectTokens
  simpa only [String.toList_append, List.append_assoc, htail, horderLine, List.cons_append,
    List.nil_append] using hlimit

/-- A setting in front of what follows it. -/
theorem lexes_setting (name lead : String)
    (hlead : Lexer.start.scan lead.toList = (.literal [], [.word "SET", .word name, .op "="]))
    (value : String) {s : List Char} {ts : List Token} (h : Lexes s ts) :
    Lexes ((lead ++ logsEscapeSQLString value ++ "';\n").toList ++ s)
      (settingTokens name (.literal value) ++ ts) := by
  have hsemi : Lexes [';'] [.op ";"] := ⟨by decide, by decide⟩
  have hline := (Lexes.literal hlead value.toList hsemi (by decide)).newline h
  simpa [toList_logsEscapeSQLString, settingTokens] using hline

/-- The same for a line that has no value in it. -/
theorem lexes_line {line : String} {us : List Token} (hline : Lexes line.toList us)
    {s : List Char} {ts : List Token} (h : Lexes s ts) :
    Lexes ((line ++ "\n").toList ++ s) (us ++ ts) := by
  simpa using hline.newline h

theorem lexes_logsBuildPrelude {endpoint access secret prelude host : String} {useSSL : Bool}
    (hparse : logsParseEndpoint endpoint = .ok (host, useSSL))
    (hprelude : logsBuildPrelude endpoint access secret = .ok prelude)
    {s : List Char} {ts : List Token} (h : Lexes s ts) :
    Lexes (prelude.toList ++ s) (preludeTokens host useSSL access secret ++ ts) := by
  have hsecret := lexes_setting "s3_secret_access_key" "SET s3_secret_access_key='" (by decide)
    secret h
  have haccess := lexes_setting "s3_access_key_id" "SET s3_access_key_id='" (by decide)
    access hsecret
  have hstyle : Lexes "SET s3_url_style='path';".toList
      (settingTokens "s3_url_style" (.literal "path")) := ⟨by decide, by decide⟩
  have hssl : Lexes ("SET s3_use_ssl=" ++ (if useSSL then "true" else "false") ++ ";").toList
      (settingTokens "s3_use_ssl" (.word (if useSSL then "true" else "false"))) := by
    cases useSSL <;> exact ⟨by decide, by decide⟩
  have hinstall : Lexes "INSTALL httpfs;\nLOAD httpfs;".toList
      [.word "INSTALL", .word "httpfs", .op ";", .word "LOAD", .word "httpfs", .op ";"] :=
    ⟨by decide, by decide⟩
  have hall := lexes_line hinstall <| lexes_setting "s3_endpoint" "SET s3_endpoint='" (by decide)
    host <| lexes_line hssl <| lexes_line hstyle haccess
  rw [logsBuildPrelude, hparse] at hprelude
  obtain rfl := Except.ok.inj hprelude
  unfold preludeTokens
  have hfirst : "INSTALL httpfs;\nLOAD httpfs;\n" = "INSTALL httpfs;\nLOAD httpfs;" ++ "\n" := by
    decide
  have hthird : "SET s3_url_style='path';\n" = "SET s3_url_style='path';" ++ "\n" := by decide
  have hend : ";\n" = ";" ++ "\n" := by decide
  rw [hfirst, hthird, hend]
  simpa only [String.toList_append, List.append_assoc] using hall

/-- The script of a query has the tokens of its two parts. -/
theorem lexes_assembleSQL {o : LogsOpts} (h : o.sqlOverride = "") (isPrint : Char → Bool)
    (getenv : String → String) {host : String} {useSSL : Bool}
    (hparse : logsParseEndpoint o.s3Endpoint = .ok (host, useSSL)) :
    ∃ script, o.assembleSQL isPrint getenv "" = .ok script ∧
      lex script = preludeTokens host useSSL (o.resolveCredentials getenv).1
          (o.resolveCredentials getenv).2 ++
        selectTokens o.resolveBucket o.service o.since o.untilTime o.limit ++ [.op ";"] := by
  obtain ⟨prelude, hprelude⟩ : ∃ prelude, logsBuildPrelude o.s3Endpoint
      (o.resolveCredentials getenv).1 (o.resolveCredentials getenv).2 = .ok prelude := by
    rw [logsBuildPrelude, hparse]
    exact ⟨_, rfl⟩
  refine ⟨prelude ++ o.body ++ ";\n", ?_, ?_⟩
  · simp only [LogsOpts.assembleSQL, hprelude]
    rfl
  · have hbody := (lexes_logsBuildSQL o.resolveBucket o.service o.since o.untilTime o.limit)
    rw [← LogsOpts.body_eq h] at hbody
    have hall := lexes_logsBuildPrelude hparse hprelude (hbody.semicolon.newline .nil)
    refine Lexes.lex_eq ?_
    have hend : ";\n".toList = [';', '\n'] := by decide
    simpa [hend, List.append_assoc] using hall

/-- Flags that differ in no more than the values of strings. -/
structure SameForm (o o' : LogsOpts) : Prop where
  scheme : hasPrefix o.s3Endpoint "https://" = hasPrefix o'.s3Endpoint "https://"
  service : o.service = "" ↔ o'.service = ""
  since : o.since = "" ↔ o'.since = ""
  untilTime : o.untilTime = "" ↔ o'.untilTime = ""
  limit : o.limit = o'.limit

theorem map_shape_filterTokens {value value' : String} (h : value = "" ↔ value' = "")
    (column op : String) : (filterTokens column op value).map Token.shape =
      (filterTokens column op value').map Token.shape := by
  unfold filterTokens
  by_cases hvalue : value = ""
  · rw [if_neg (by simpa using hvalue), if_neg (by simpa using h.mp hvalue)]
  · rw [if_pos hvalue, if_pos fun h' => hvalue (h.mpr h')]
    rfl

theorem useSSL_eq {endpoint host : String} {useSSL : Bool}
    (h : logsParseEndpoint endpoint = .ok (host, useSSL)) :
    useSSL = hasPrefix endpoint "https://" := by
  unfold logsParseEndpoint at h
  split at h
  · cases h
  split at h
  · cases h; exact Eq.symm ‹_›
  split at h
  · cases h; simp_all
  · cases h; simp_all

/-- **No flag gets out of its literal.** The script of a query is made for every endpoint but the
empty one. Its tokens are a fixed sequence in which the flags are the values of the literals, and
two scripts with the same scheme, filters and limit differ in nothing else. -/
theorem assembleSQL_injection_free (isPrint : Char → Bool) (getenv : String → String)
    (o : LogsOpts) (hsql : o.sqlOverride = "") :
    (o.s3Endpoint = "" → o.assembleSQL isPrint getenv "" = .error "s3 endpoint is empty") ∧
    (o.s3Endpoint ≠ "" → ∃ script host useSSL, o.assembleSQL isPrint getenv "" = .ok script ∧
      SplitsEndpoint o.s3Endpoint host useSSL ∧
      lex script = preludeTokens host useSSL (o.resolveCredentials getenv).1
          (o.resolveCredentials getenv).2 ++
        selectTokens o.resolveBucket o.service o.since o.untilTime o.limit ++ [.op ";"]) ∧
    ∀ o' getenv' script script', o'.sqlOverride = "" → SameForm o o' →
      o.assembleSQL isPrint getenv "" = .ok script →
      o'.assembleSQL isPrint getenv' "" = .ok script' →
      (lex script).map Token.shape = (lex script').map Token.shape := by
  have hempty : ∀ (o : LogsOpts) getenv, o.s3Endpoint = "" →
      o.assembleSQL isPrint getenv "" = .error "s3 endpoint is empty" := by
    intro o getenv h
    simp [LogsOpts.assembleSQL, logsBuildPrelude, logsParseEndpoint, h]
  refine ⟨hempty o getenv, fun hne => ?_, ?_⟩
  · obtain ⟨host, useSSL, hparse, hsplits⟩ := logsParseEndpoint_splits hne
    obtain ⟨script, hscript, htokens⟩ := lexes_assembleSQL hsql isPrint getenv hparse
    exact ⟨script, host, useSSL, hscript, hsplits, htokens⟩
  · intro o' getenv' script script' hsql' hsame hscript hscript'
    have hparsed : ∀ (o : LogsOpts) getenv script, o.assembleSQL isPrint getenv "" = .ok script →
        o.s3Endpoint ≠ "" := by
      intro o getenv script h hnil
      rw [hempty o getenv hnil] at h
      cases h
    obtain ⟨host, useSSL, hparse, -⟩ := logsParseEndpoint_splits (hparsed _ _ _ hscript)
    obtain ⟨host', useSSL', hparse', -⟩ := logsParseEndpoint_splits (hparsed _ _ _ hscript')
    obtain ⟨s, hs, htokens⟩ := lexes_assembleSQL hsql isPrint getenv hparse
    obtain ⟨s', hs', htokens'⟩ := lexes_assembleSQL hsql' isPrint getenv' hparse'
    obtain rfl := Except.ok.inj (hscript.symm.trans hs)
    obtain rfl := Except.ok.inj (hscript'.symm.trans hs')
    have hssl : useSSL = useSSL' := by
      rw [useSSL_eq hparse, useSSL_eq hparse', hsame.scheme]
    subst hssl
    rw [htokens, htokens']
    simp only [List.map_append, preludeTokens, selectTokens,
      map_shape_filterTokens hsame.service, map_shape_filterTokens hsame.since,
      map_shape_filterTokens hsame.untilTime, hsame.limit, settingTokens, List.map_cons,
      List.map_nil, Token.shape]

/-- A service name that tries to end the literal and the statement. -/
theorem assembleSQL_injection_free_drop :
    ∃ script host useSSL,
      ({ cp := "venado", s3Endpoint := "http://versitygw:10000"
         service := "foo'; DROP TABLE x; --" } : LogsOpts).assembleSQL
        (fun _ => true) (fun _ => "") "" = .ok script ∧
      SplitsEndpoint "http://versitygw:10000" host useSSL ∧
      lex script = preludeTokens host useSSL "" "" ++
        selectTokens "venado-logs" "foo'; DROP TABLE x; --" "" "" 100 ++ [.op ";"] :=
  (assembleSQL_injection_free (fun _ => true) (fun _ => "")
    { cp := "venado", s3Endpoint := "http://versitygw:10000"
      service := "foo'; DROP TABLE x; --" } rfl).2.1 (by decide)

end Tokens

/-! ### The statement of an export -/

section Export
variable {isPrint : Char → Bool} {getenv : String → String} {o : LogsOpts}

/-- The marker of the query, a quote between other characters. -/
def lone : List Char := "('s".toList

theorem marker_lone : Printf.Marker lone := by
  simp [Printf.Marker, lone]

theorem guarded_body (h : o.sqlOverride = "") : Printf.Guarded lone o.body.toList := by
  obtain ⟨rest, hrest⟩ :=
    logsBuildSQL_front o.resolveBucket o.service o.since o.untilTime o.limit
  have hsplit : o.body.toList =
      "SELECT *\nFROM read_parquet".toList ++ lone ++ ("3://".toList ++ rest.toList) := by
    rw [LogsOpts.body_eq h, hrest, String.toList_append, ← List.append_assoc]
    exact congrArg (· ++ rest.toList) (by decide : "SELECT *\nFROM read_parquet('s3://".toList =
      "SELECT *\nFROM read_parquet".toList ++ lone ++ "3://".toList)
  rw [hsplit]
  exact Printf.guarded_of_marker (by decide) _

/-- Every quote of an escaped value has another one beside it. -/
theorem lone_not_infix_escape {tail : List Char} (htail : ¬ lone <:+: tail)
    (hhead : ¬ ['\'', 's'] <+: tail) (v : List Char) : ¬ lone <:+: Sql.escape v ++ tail := by
  have hfront : ∀ v : List Char, ¬ ['\'', 's'] <+: Sql.escape v ++ tail := by
    intro v
    rcases v with _ | ⟨c, v⟩
    · exact hhead
    · rw [Sql.escape_cons]
      by_cases hc : c = '\''
      · simp [hc]
      · simp [hc, Ne.symm hc]
  have hstep : ∀ (c : Char) (v : List Char), ¬ lone <:+: Sql.escape v ++ tail →
      ¬ lone <:+: c :: (Sql.escape v ++ tail) := by
    intro c v hv hin
    rcases List.infix_cons_iff.mp hin with hstart | hin
    · exact hfront v (List.cons_prefix_cons.mp hstart).2
    · exact hv hin
  induction v with
  | nil => exact htail
  | cons c v ih =>
    rw [Sql.escape_cons]
    by_cases hc : c = '\''
    · subst hc
      intro hin
      rcases List.infix_cons_iff.mp hin with hstart | hin
      · exact absurd (List.cons_prefix_cons.mp hstart).1 (by decide)
      · exact hstep _ v ih hin
    · rw [if_neg hc]
      exact hstep c v ih

/-- The text after the verb in the wrapper. -/
def copyTarget (target format : String) : String :=
  ") TO " ++ Sql.quoted target ++ " (FORMAT " ++ Sql.quoted format ++ ")"

theorem exportWrapper_eq (h : o.output ≠ "-") :
    o.exportWrapper = "COPY (" ++ "%s" ++ copyTarget o.output o.format := by
  have hescape : ∀ s, logsEscapeSQLString s = String.ofList (Sql.escape s.toList) := fun _ => rfl
  have hlead : "COPY (%s) TO '" = "COPY (" ++ "%s" ++ ") TO " ++ "'" := by decide
  have hformat : "' (FORMAT '" = "'" ++ " (FORMAT " ++ "'" := by decide
  have hend : "')" = "'" ++ ")" := by decide
  unfold LogsOpts.exportWrapper copyTarget Sql.quoted
  rw [if_neg h, hlead, hformat, hend]
  simp only [hescape, String.append_assoc]

theorem accepted_format (h : o.validateExport isPrint = .ok ()) :
    o.format ∈ ["csv", "json", "parquet"] ∧ o.output ≠ "" := by
  unfold LogsOpts.validateExport at h
  split at h
  · cases h
  split at h
  · cases h
  · exact ⟨not_not.mp ‹_›, ‹_›⟩

/-- What the wrapper needs of the text after the verb, for the formats there are. -/
theorem copyTarget_plain {format : String} (h : format ∈ ["csv", "json", "parquet"])
    (target : String) :
    (copyTarget target format).toList.getLast? ≠ some '%' ∧
    ¬ lone <:+: (copyTarget target format).toList ∧
    ('%' ∈ (copyTarget target format).toList ↔ '%' ∈ target.toList) := by
  obtain ⟨tail, hlist, hlone, hhead, hlast, hpercent⟩ : ∃ tail : List Char,
      (copyTarget target format).toList =
        ") TO '".toList ++ (Sql.escape target.toList ++ tail) ∧
      ¬ lone <:+: tail ∧ ¬ ['\'', 's'] <+: tail ∧ tail.getLast? = some ')' ∧ '%' ∉ tail := by
    refine ⟨("' (FORMAT '" ++ String.ofList (Sql.escape format.toList) ++ "')").toList, ?_, ?_⟩
    · simp [copyTarget, Sql.quoted]
    · simp only [List.mem_cons, List.not_mem_nil, or_false] at h
      rcases h with rfl | rfl | rfl <;> decide
  have hescape : '%' ∈ Sql.escape target.toList ↔ '%' ∈ target.toList := by
    unfold Sql.escape
    constructor
    · intro hmem
      obtain ⟨c, hc, hin⟩ := List.mem_flatMap.mp hmem
      split at hin
      · simp at hin
      · rwa [List.mem_singleton.mp hin]
    · intro hmem
      exact List.mem_flatMap.mpr ⟨'%', hmem, by simp⟩
  rw [hlist]
  refine ⟨?_, ?_, ?_⟩
  · rw [← List.append_assoc, List.getLast?_append, hlast]
    simp
  · have hrest := lone_not_infix_escape hlone hhead target.toList
    simpa [List.infix_cons_iff, lone] using hrest
  · have hfront : '%' ∉ ") TO '".toList := by decide
    simp only [List.mem_append, hescape, hpercent, hfront, false_or, or_false]

/-- The script of an export, for flags that are accepted. -/
def copyScript (prelude body : String) (o : LogsOpts) : String :=
  prelude ++ ("COPY (" ++ body ++ ") TO " ++ Sql.quoted o.output ++ " (FORMAT " ++
    Sql.quoted o.format ++ ")") ++ ";\n"

theorem run_eq (hvalid : o.validate = .ok ()) (hexport : o.validateExport isPrint = .ok ()) :
    ∃ prelude queried exported,
      logsBuildPrelude o.s3Endpoint (o.resolveCredentials getenv).1
        (o.resolveCredentials getenv).2 = .ok prelude ∧
      o.runQuery isPrint getenv = .ok queried ∧ o.runExport isPrint getenv = .ok exported ∧
      queried.sql = prelude ++ o.body ++ ";\n" ∧
      exported.sql = prelude ++ Printf.sprintf isPrint [o.body] o.exportWrapper ++ ";\n" := by
  have hendpoint : o.s3Endpoint ≠ "" := by
    intro hempty
    unfold LogsOpts.validate at hvalid
    rw [if_pos hempty] at hvalid
    split at hvalid <;> cases hvalid
  obtain ⟨host, useSSL, hparse, -⟩ := logsParseEndpoint_splits hendpoint
  obtain ⟨prelude, hprelude⟩ : ∃ prelude, logsBuildPrelude o.s3Endpoint
      (o.resolveCredentials getenv).1 (o.resolveCredentials getenv).2 = .ok prelude := by
    rw [logsBuildPrelude, hparse]
    exact ⟨_, rfl⟩
  have hwrapper : o.exportWrapper ≠ "" := by
    intro hempty
    have := congrArg String.toList hempty
    unfold LogsOpts.exportWrapper at this
    simp at this
  have hquery : o.assembleSQL isPrint getenv "" = .ok (prelude ++ o.body ++ ";\n") := by
    simp only [LogsOpts.assembleSQL, hprelude]
    rfl
  have hcopy : o.assembleSQL isPrint getenv o.exportWrapper =
      .ok (prelude ++ Printf.sprintf isPrint [o.body] o.exportWrapper ++ ";\n") := by
    simp only [LogsOpts.assembleSQL, hprelude, if_pos hwrapper]
    rfl
  refine ⟨prelude,
    { binary := o.duckdbPath, sql := prelude ++ o.body ++ ";\n"
      notice := "querying logs in bucket " ++ quote isPrint o.resolveBucket ++ " via " ++
        o.s3Endpoint ++ "\n" },
    { binary := o.duckdbPath
      sql := prelude ++ Printf.sprintf isPrint [o.body] o.exportWrapper ++ ";\n"
      notice := "exporting logs (format=" ++ o.format ++ ") to " ++ o.output ++ "\n" },
    hprelude, ?_, ?_, rfl, rfl⟩
  · simp only [LogsOpts.runQuery, hvalid, hquery]
    rfl
  · simp only [LogsOpts.runExport, hvalid, hexport, hcopy]
    rfl

/-- **An export writes where it was told, if the path has no percent sign.** The wrapper that holds
the path is a format string for `Sprintf`, so that a percent sign in the path is read as a verb. -/
theorem runExport_copies_iff (isPrint : Char → Bool) (getenv : String → String) (o : LogsOpts)
    (hvalid : o.validate = .ok ()) (hexport : o.validateExport isPrint = .ok ())
    (hsql : o.sqlOverride = "") (hout : o.output ≠ "-") :
    (∃ prelude body queried exported, o.runQuery isPrint getenv = .ok queried ∧
      o.runExport isPrint getenv = .ok exported ∧
      logsBuildPrelude o.s3Endpoint (o.resolveCredentials getenv).1
        (o.resolveCredentials getenv).2 = .ok prelude ∧
      queried.sql = prelude ++ body ++ ";\n" ∧ exported.sql = copyScript prelude body o) ↔
    '%' ∉ o.output.toList := by
  obtain ⟨prelude, queried, exported, hprelude, hquery, hrun, hqsql, hesql⟩ :=
    @run_eq isPrint getenv o hvalid hexport
  obtain ⟨hlast, hlone, hpercent⟩ := copyTarget_plain (accepted_format hexport).1 o.output
  have hcopies : '%' ∉ "COPY (".toList := by decide
  have hiff := @Printf.sprintf_eq_iff lone isPrint marker_lone o.body (guarded_body hsql) "COPY ("
    (copyTarget o.output o.format) hcopies hlast hlone
  rw [hpercent, ← exportWrapper_eq hout] at hiff
  have hcopy : ∀ body, copyScript prelude body o =
      prelude ++ ("COPY (" ++ body ++ copyTarget o.output o.format) ++ ";\n" := by
    intro body
    simp only [copyScript, copyTarget, String.append_assoc]
  rw [← hiff]
  constructor
  · rintro ⟨prelude', body, queried', exported', hquery', hrun', hprelude', hqsql', hesql'⟩
    cases hprelude.symm.trans hprelude'
    cases hquery.symm.trans hquery'
    cases hrun.symm.trans hrun'
    have hbody : o.body = body := by
      rw [hqsql, String.append_left_inj, String.append_right_inj] at hqsql'
      exact hqsql'
    subst hbody
    rw [hesql, hcopy, String.append_left_inj, String.append_right_inj] at hesql'
    exact hesql'
  · intro h
    exact ⟨prelude, o.body, queried, exported, hquery, hrun, hprelude, hqsql,
      by rw [hesql, h, hcopy]⟩

/-- Accepted flags with a path that has no percent sign. -/
theorem runExport_copies_plain :
    ∃ prelude body queried exported,
      ({ cp := "venado", s3Endpoint := "http://s3", output := "it's.csv" } : LogsOpts).runQuery
        (fun _ => true) (fun _ => "") = .ok queried ∧
      ({ cp := "venado", s3Endpoint := "http://s3", output := "it's.csv" } : LogsOpts).runExport
        (fun _ => true) (fun _ => "") = .ok exported ∧
      logsBuildPrelude "http://s3" "" "" = .ok prelude ∧
      queried.sql = prelude ++ body ++ ";\n" ∧
      exported.sql = copyScript prelude body
        { cp := "venado", s3Endpoint := "http://s3", output := "it's.csv" } :=
  (runExport_copies_iff (fun _ => true) (fun _ => "")
    { cp := "venado", s3Endpoint := "http://s3", output := "it's.csv" }
    rfl rfl rfl (by decide)).mpr (by decide)

/-- The path `logs%20.csv` is not what DuckDB is told to write. -/
theorem runExport_percent :
    (({ cp := "venado", s3Endpoint := "http://s3", output := "logs%20.csv" } : LogsOpts).runExport
      (fun _ => true) (fun _ => "")).map LogsOpts.Dispatch.sql = .ok
    ("INSTALL httpfs;\nLOAD httpfs;\nSET s3_endpoint='s3';\nSET s3_use_ssl=false;\n" ++
      "SET s3_url_style='path';\nSET s3_access_key_id='';\nSET s3_secret_access_key='';\n" ++
      "COPY (SELECT *\nFROM read_parquet('s3://venado-logs/**/*.parquet')\nWHERE 1=1\n" ++
      "ORDER BY ts DESC\nLIMIT 100) TO 'logs%!c(MISSING)sv' (FORMAT 'csv');\n") := by
  decide +kernel

end Export

end OpenchamiOperator.Admin
