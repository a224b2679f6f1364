import Skplat.Data.CString
import Skplat.Sql.Template

/-!
# The statements of `xhost` and `xdns`

The functions below put host names and addresses between single quotes with `snprintf`
into a buffer of 4096 bytes, and hand the text to `sqlite3_exec` or `sqlite3_prepare_v2`.
Quotes in the strings are not doubled and the result of `snprintf` is not looked at.

Strings are lists of bytes other than 0.  Which statements SQLite accepts is a parameter.
-/

namespace Skplat
namespace Sqlite

open CString Sql

/-- `sizeof(sql_buff)` without the byte for the end. -/
def buffSize : ℕ := 4095

/-- What a function returns, and what SQLite has executed for it. -/
structure Outcome where
  result : Int
  executed : List (List Elem)

/-- The format string of `insert_xhost_host`. -/
def insertXhostHostSql (host : List UInt8) (port type : Int) : Template where
  pieces := [.text (ascii "insert into xhost(host,port,type)values("), .literal host,
    .text (ascii ","), .number port, .text (ascii ","), .number type, .text (ascii ")")]
  terminator := ascii ";"
  plain := plain_of_all rfl
  separated := of_decide_eq_true rfl
  starts := ⟨105, _, _, rfl, rfl⟩
  ends := of_decide_eq_true rfl
  terminated := terminates_semicolon

/-- The format string of `delete_xhost_by_port`. -/
def deleteXhostByPortSql (host : List UInt8) (port : Int) : Template where
  pieces := [.text (ascii "delete from xhost where host="), .literal host,
    .text (ascii " AND port = "), .number port]
  terminator := ascii ";"
  plain := plain_of_all rfl
  separated := of_decide_eq_true rfl
  starts := ⟨100, _, _, rfl, rfl⟩
  ends := of_decide_eq_true rfl
  terminated := terminates_semicolon

/-- The format string of `delete_xhost_by_host`. -/
def deleteXhostByHostSql (host : List UInt8) : Template where
  pieces := [.text (ascii "delete from xhost where host="), .literal host]
  terminator := ascii ";"
  plain := plain_of_all rfl
  separated := of_decide_eq_true rfl
  starts := ⟨100, _, _, rfl, rfl⟩
  ends := of_decide_eq_true rfl
  terminated := terminates_semicolon

/-- `network_dns`. -/
structure NetworkDns where
  host : List UInt8
  ip : List UInt8
  dnsServer : List UInt8
  ipType : Int
  dnsType : Int
  failTimes : Int
  connProfile : Int

/-- `MAX_CONN_PROFILE`. -/
def maxConnProfile : Int := 0x0fffffff

/-- The format string of `insert_host_ip`, with the values that stand for missing
ones. -/
def insertHostIpSql (entry : NetworkDns) : Template where
  pieces := [.text (ascii ("insert into xdns(host,ip,dns_server,ip_type,dns_type," ++
      "fail_times,conn_profile) values (")),
    .literal (if entry.host = [] then entry.ip else entry.host), .text (ascii ","),
    .literal entry.ip, .text (ascii ","),
    .literal (if entry.dnsServer ≠ [] then entry.dnsServer else ascii "NULL"),
    .text (ascii ","),
    .number (if entry.ipType ≥ 0 then entry.ipType else 0), .text (ascii ","),
    .number (if entry.dnsType ≥ 0 then entry.dnsType else 0), .text (ascii ","),
    .number (if entry.failTimes ≥ 0 then entry.failTimes else 0), .text (ascii ","),
    .number (if entry.connProfile ≥ 0 then entry.connProfile else maxConnProfile),
    .text (ascii ")")]
  terminator := ascii ";"
  plain := plain_of_all rfl
  separated := of_decide_eq_true rfl
  starts := ⟨105, _, _, rfl, rfl⟩
  ends := of_decide_eq_true rfl
  terminated := terminates_semicolon

/-- The format string of `dns_host_exist`. -/
def dnsHostExistSql (host ip : List UInt8) : Template where
  pieces := [.text (ascii "select count(*) from xdns where host = "), .literal host,
    .text (ascii " AND ip = "), .literal ip]
  terminator := ascii " ;"
  plain := plain_of_all rfl
  separated := of_decide_eq_true rfl
  starts := ⟨115, _, _, rfl, rfl⟩
  ends := of_decide_eq_true rfl
  terminated := terminates_blank_semicolon

/-- The format string of `update_dns_ip`. -/
def updateDnsIpSql (host ip newIp : List UInt8) : Template where
  pieces := [.text (ascii "update xdns set ip = "), .literal newIp,
    .text (ascii "where host = "), .literal host, .text (ascii " and ip = "), .literal ip]
  terminator := ascii " ;"
  plain := plain_of_all rfl
  separated := of_decide_eq_true rfl
  starts := ⟨117, _, _, rfl, rfl⟩
  ends := of_decide_eq_true rfl
  terminated := terminates_blank_semicolon

/-- `sqlite3_exec`: the statements are executed in order up to one that SQLite does not
accept. -/
def sqlite3Exec (accepts : List Elem → Bool) (text : List UInt8) : Outcome where
  result := if (statements text).all accepts then 0 else 1
  executed := (statements text).takeWhile accepts

/-- `sqlite3_exec` and the test of its result. -/
def execOrFail (accepts : List Elem → Bool) (template : Template) : Outcome :=
  let outcome := sqlite3Exec accepts (template.text buffSize)
  if outcome.result ≠ 0 then { outcome with result := -1 } else { outcome with result := 0 }

/-- Nothing is executed. -/
def refuse : Outcome where
  result := -1
  executed := []

/-- `HOST_TYPE_MAX`. -/
def hostTypeMax : Int := 6

/-- `insert_xhost_host`. -/
def insertXhostHost (accepts : List Elem → Bool) (host : List UInt8) (port type : Int) :
    Outcome :=
  if type ≥ hostTypeMax ∨ type < 0 then refuse
  else execOrFail accepts (insertXhostHostSql host port type)

/-- `delete_xhost_by_port`. -/
def deleteXhostByPort (accepts : List Elem → Bool) (host : List UInt8) (port : Int) :
    Outcome :=
  execOrFail accepts (deleteXhostByPortSql host port)

/-- `delete_xhost_by_host`. -/
def deleteXhostByHost (accepts : List Elem → Bool) (host : List UInt8) : Outcome :=
  execOrFail accepts (deleteXhostByHostSql host)

/-- `insert_host_ip`. -/
def insertHostIp (accepts : List Elem → Bool) (entry : NetworkDns) : Outcome :=
  if entry.ip = [] then refuse else execOrFail accepts (insertHostIpSql entry)

/-- `sqlite3_prepare_v2` and `sqlite3_step`: the first statement is executed, and its first
column is the result. -/
def prepareFirst (accepts : List Elem → Bool) (column : List Elem → Int)
    (template : Template) : Outcome :=
  match statements (template.text buffSize) with
  | [] => refuse
  | first :: _ => if accepts first then ⟨column first, [first]⟩ else refuse

/-- `dns_host_exist`. -/
def dnsHostExist (accepts : List Elem → Bool) (column : List Elem → Int)
    (host ip : List UInt8) : Outcome :=
  prepareFirst accepts column (dnsHostExistSql host ip)

/-- `sqlite3_exec` without a test of its result. -/
def execAnyway (accepts : List Elem → Bool) (template : Template) : Outcome :=
  { sqlite3Exec accepts (template.text buffSize) with result := 0 }

/-- `update_dns_ip`. -/
def updateDnsIp (accepts : List Elem → Bool) (host ip newIp : List UInt8) : Outcome :=
  execAnyway accepts (updateDnsIpSql host ip newIp)

/-- The text is the statement that is meant and no other, or the function returns an
error and nothing is executed; nothing else is executed. -/
structure Faithful (template : Template) (outcome : Outcome) : Prop where
  meant : statements (template.text buffSize) = [template.statement] ∨
    (outcome.result < 0 ∧ outcome.executed = [])
  nothingElse : ∀ statement ∈ outcome.executed, statement = template.statement

/-- No string has a quote, and the text fits into the buffer but for the semicolon and
the blank before it. -/
def Fits (template : Template) : Prop :=
  QuoteFree template.pieces ∧ template.core.length ≤ buffSize

/-- SQLite does not accept what the text in the buffer begins with. -/
def Rejected (accepts : List Elem → Bool) (template : Template) : Prop :=
  ∃ first ∈ (statements (template.text buffSize)).head?, accepts first = false

variable {accepts : List Elem → Bool} {template : Template}

/-- The text is the statement that is meant exactly if it fits. -/
theorem statements_eq_iff :
    statements (template.text buffSize) = [template.statement] ↔ Fits template :=
  template.statements_text_iff (by decide)

/-- A function that does nothing is faithful. -/
theorem faithful_refuse (template : Template) : Faithful template refuse where
  meant := Or.inr ⟨by decide, rfl⟩
  nothingElse _ absent := by cases absent

/-- Nothing but the statement that is meant is executed of a text that fits. -/
theorem executed_of_fits
    (fits : Fits template) :
    ∀ statement ∈ (sqlite3Exec accepts (template.text buffSize)).executed,
      statement = template.statement := by
  intro statement executed
  have inText := (List.takeWhile_sublist accepts).subset executed
  rw [statements_eq_iff.mpr fits, List.mem_singleton] at inText
  exact inText

/-- The text in the buffer begins with a statement. -/
theorem exists_first (template : Template) :
    ∃ first others, statements (template.text buffSize) = first :: others := by
  obtain ⟨first, others, isText, _⟩ :=
    template.exists_statements (show 0 < buffSize by decide)
  exact ⟨first, others, isText⟩

/-- The two results of `sqlite3_exec` with a test of its result. -/
theorem execOrFail_eq :
    execOrFail accepts template =
      ⟨if (statements (template.text buffSize)).all accepts then 0 else -1,
        (statements (template.text buffSize)).takeWhile accepts⟩ := by
  unfold execOrFail sqlite3Exec
  by_cases all : (statements (template.text buffSize)).all accepts = true
  · simp [all]
  · simp [all]

/-- When `sqlite3_exec` with a test of its result is faithful. -/
theorem faithful_execOrFail_iff :
    Faithful template (execOrFail accepts template) ↔
      Fits template ∨ Rejected accepts template := by
  obtain ⟨first, others, isText⟩ := exists_first template
  rw [execOrFail_eq]
  constructor
  · rintro ⟨isMeant | ⟨_, nothing⟩, _⟩
    · exact Or.inl (statements_eq_iff.mp isMeant)
    · right
      refine ⟨first, by rw [isText]; rfl, ?_⟩
      by_contra accepted
      rw [Bool.not_eq_false] at accepted
      rw [isText, List.takeWhile_cons_of_pos accepted] at nothing
      cases nothing
  · rintro (fits | ⟨rejected, isFirst, notAccepted⟩)
    · exact ⟨Or.inl (statements_eq_iff.mpr fits), executed_of_fits fits⟩
    · have sameFirst : first = rejected := by
        rw [isText] at isFirst
        exact Option.some.inj isFirst
      have nothing : (statements (template.text buffSize)).takeWhile accepts = [] := by
        rw [isText, List.takeWhile_cons_of_neg (by simp [sameFirst, notAccepted])]
      have notAll : ¬(statements (template.text buffSize)).all accepts = true := by
        rw [isText, List.all_cons, sameFirst, notAccepted]
        exact Bool.false_ne_true
      refine ⟨Or.inr ⟨?_, nothing⟩, ?_⟩
      · show (if (statements (template.text buffSize)).all accepts then 0 else -1 : Int) < 0
        rw [if_neg notAll]
        decide
      · intro statement executed
        rw [nothing] at executed
        cases executed

/-- A string with a quote that SQLite does not reject is not faithful. -/
theorem not_faithful_of_quote
    {value : List UInt8}
    (present : .literal value ∈ template.pieces)
    (quote : 39 ∈ value) :
    ¬Faithful template (execOrFail (fun _ => true) template) := by
  rw [faithful_execOrFail_iff]
  rintro (fits | ⟨_, _, notAccepted⟩)
  · exact fits.1 value present quote
  · cases notAccepted

/-- When `sqlite3_prepare_v2` is faithful. -/
theorem faithful_prepareFirst_iff
    (column : List Elem → Int) :
    Faithful template (prepareFirst accepts column template) ↔
      Fits template ∨ Rejected accepts template := by
  obtain ⟨first, others, isText⟩ := exists_first template
  simp only [prepareFirst, isText]
  constructor
  · intro faithful
    cases faithful.meant with
    | inl isMeant => exact Or.inl (statements_eq_iff.mp isMeant)
    | inr refused =>
        right
        refine ⟨first, by rw [isText]; rfl, ?_⟩
        by_contra accepted
        rw [Bool.not_eq_false] at accepted
        rw [if_pos accepted] at refused
        cases refused.2
  · rintro (fits | ⟨rejected, isFirst, notAccepted⟩)
    · have isMeant := statements_eq_iff.mpr fits
      refine ⟨Or.inl isMeant, ?_⟩
      intro statement executed
      split at executed
      · rw [isText] at isMeant
        rw [List.mem_singleton] at executed
        rw [executed]
        exact (List.cons.inj isMeant).1
      · cases executed
    · have sameFirst : first = rejected := by
        rw [isText] at isFirst
        exact Option.some.inj isFirst
      rw [if_neg (by simp [sameFirst, notAccepted])]
      exact faithful_refuse _

/-- When `sqlite3_exec` without a test of its result is faithful. -/
theorem faithful_execAnyway_iff :
    Faithful template (execAnyway accepts template) ↔ Fits template := by
  constructor
  · rintro ⟨isMeant | ⟨failed, _⟩, _⟩
    · exact statements_eq_iff.mp isMeant
    · exact absurd failed (Int.lt_irrefl 0)
  · intro fits
    exact ⟨Or.inl (statements_eq_iff.mpr fits), executed_of_fits fits⟩

/-- For every pair of strings, every number and whatever SQLite accepts: the functions
execute the statement that is meant and nothing else, or return an error without
executing anything, exactly if no string has a quote and the text fits into the buffer,
or SQLite rejects the text from its start; `update_dns_ip` does not report the latter. -/
theorem faithful_iff
    (accepts : List Elem → Bool) (column : List Elem → Int)
    (host ip newIp : List UInt8) (port type : Int) (entry : NetworkDns) :
    (Faithful (insertXhostHostSql host port type)
        (insertXhostHost accepts host port type) ↔
      (type ≥ hostTypeMax ∨ type < 0) ∨ Fits (insertXhostHostSql host port type) ∨
        Rejected accepts (insertXhostHostSql host port type)) ∧
    (Faithful (deleteXhostByPortSql host port) (deleteXhostByPort accepts host port) ↔
      Fits (deleteXhostByPortSql host port) ∨
        Rejected accepts (deleteXhostByPortSql host port)) ∧
    (Faithful (deleteXhostByHostSql host) (deleteXhostByHost accepts host) ↔
      Fits (deleteXhostByHostSql host) ∨ Rejected accepts (deleteXhostByHostSql host)) ∧
    (Faithful (insertHostIpSql entry) (insertHostIp accepts entry) ↔
      entry.ip = [] ∨ Fits (insertHostIpSql entry) ∨
        Rejected accepts (insertHostIpSql entry)) ∧
    (Faithful (dnsHostExistSql host ip) (dnsHostExist accepts column host ip) ↔
      Fits (dnsHostExistSql host ip) ∨ Rejected accepts (dnsHostExistSql host ip)) ∧
    (Faithful (updateDnsIpSql host ip newIp) (updateDnsIp accepts host ip newIp) ↔
      Fits (updateDnsIpSql host ip newIp)) := by
  refine ⟨?_, faithful_execOrFail_iff, faithful_execOrFail_iff, ?_,
    faithful_prepareFirst_iff column, faithful_execAnyway_iff⟩
  · unfold insertXhostHost
    split
    · rename_i outside
      exact iff_of_true (faithful_refuse _) (Or.inl outside)
    · rename_i inside
      rw [faithful_execOrFail_iff, or_iff_right inside]
  · unfold insertHostIp
    split
    · rename_i empty
      exact iff_of_true (faithful_refuse _) (Or.inl empty)
    · rename_i nonempty
      rw [faithful_execOrFail_iff, or_iff_right nonempty]

/-- A host that closes its literal and goes on with a statement of its own, and one with
two quotes. -/
theorem injected_and_changed :
    (deleteXhostByHost (fun _ => true) (ascii "a';drop table xdns;--")).executed =
      [(ascii "delete from xhost where host=").map .other ++ [.literal (ascii "a")],
        (ascii "drop table xdns").map .other] ∧
    ¬Faithful (deleteXhostByHostSql (ascii "a';drop table xdns;--"))
      (deleteXhostByHost (fun _ => true) (ascii "a';drop table xdns;--")) ∧
    (deleteXhostByHost (fun _ => true) (ascii "a''b")).executed =
      [(ascii "delete from xhost where host=").map .other ++ [.literal (ascii "a'b")]] ∧
    ¬Faithful (deleteXhostByHostSql (ascii "a''b"))
      (deleteXhostByHost (fun _ => true) (ascii "a''b")) := by
  refine ⟨by decide +kernel, ?_, by decide +kernel, ?_⟩
  · rw [deleteXhostByHost]
    exact not_faithful_of_quote (List.mem_cons_of_mem _ List.mem_cons_self) (by decide)
  · rw [deleteXhostByHost]
    exact not_faithful_of_quote (List.mem_cons_of_mem _ List.mem_cons_self) (by decide)

end Sqlite
end Skplat
