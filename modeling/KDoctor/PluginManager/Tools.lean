import KDoctor.PluginManager.ControllerTools
import KDoctor.Lib.GoUrl

/-!
The checks of `pluginManager/tools/tools.go`: `ValidataCrdSchedule`, which
the validating webhooks of the three task kinds run on a plan, the plan the
mutating webhooks put in when a task has none, and
`ValidataAppHttpHealthyHost`, the check of the host of an AppHttpHealthy.

The crontab parser is the vendored robfig/cron `ParseStandard`; here it is the
parameter `parseStandard`, returning the parser's error text or the `Next`
function of the schedule (`newSchedule` takes the same parser with its error
dropped). Go's `net.ParseIP`, which the host check reads through `To4` and
`To16`, is a pair of parameters too: whether a text is an IPv4 address and
whether it is an IP address; so is `strconv.Quote`, which the text of a
`url.Error` uses.
-/

namespace KDoctor.PluginManager

open Crd Go

/-- `ValidataCrdSchedule`. -/
def validataCrdSchedule (parseStandard : String → Except String (Int → Int)) :
    Option SchedulePlan → Except String Unit
  | none => .error "schedule is empty"
  | some plan =>
    match plan.schedule with
    -- `*plan.Schedule` of a nil schedule
    | none => .error nilDereference
    | some s =>
      let args := split s ' '
      let checked : Except String Unit :=
        match args with
        | [startAfter, interval] =>
          match atoi startAfter, atoi interval with
          | (_, false), _ => .error "the format of the schedule is incorrect, it should be number"
          | _, (_, false) => .error "the format of the schedule is incorrect, it should be number"
          | (startAfterMinute, true), (intervalMinute, true) =>
            if startAfterMinute < 0 then
              .error ("Schedule.StartAfterMinute " ++ toString startAfterMinute ++
                " must not be smaller than 0 ")
            else if intervalMinute < 1 then
              .error ("Schedule.IntervalMinute " ++ toString intervalMinute ++
                " must not be smaller than 1 ")
            else if plan.roundTimeoutMinute > intervalMinute then
              .error ("Schedule.RoundTimeoutMinute " ++ toString plan.roundTimeoutMinute ++
                " must not be bigger than Schedule.IntervalMinute " ++ toString intervalMinute ++
                " ")
            else .ok ()
        | _ =>
          if args.length = 5 then
            match parseStandard s with
            | .error err => .error ("crontab configuration error,err: " ++ err)
            | .ok _ => .ok ()
          else .error "the format of the schedule is incorrect, it should be two or five"
      match checked with
      | .error e => .error e
      | .ok () =>
        if plan.roundTimeoutMinute < 1 then
          .error ("Schedule.RoundTimeoutMinute " ++ toString plan.roundTimeoutMinute ++
            " must not be smaller than 1 ")
        else .ok ()

/-- `GetDefaultSchedule`. -/
def getDefaultSchedule : SchedulePlan where
  schedule := some "0 1"
  roundTimeoutMinute := 60
  roundNumber := 1

/-! ## The host of an AppHttpHealthy -/

/-- How `ValidataAppHttpHealthyHost` ends: `nil`, a `BadRequest` with its
message, or a run-time panic of an index out of range. -/
inductive HostVerdict where
  | accepted
  | badRequest (message : String)
  | indexOutOfRange (index : Int) (length : Nat)
  deriving DecidableEq, Repr

/-- The error a verdict gives the webhook, with the text of the run-time
panic its server recovers. -/
def HostVerdict.toExcept : HostVerdict → Except String Unit
  | .accepted => .ok ()
  | .badRequest message => .error message
  | .indexOutOfRange i n =>
    .error ("runtime error: index out of range [" ++ toString i ++ "]" ++
      if i < 0 then "" else " with length " ++ toString n)

/-- `s[i]`: the character, or the index and the length of a panic. -/
def charAt (s : String) (i : Int) : Except (Int × Nat) Char :=
  if 0 ≤ i ∧ i < s.toList.length then .ok (s.toList.getD i.toNat ' ') else .error (i, s.toList.length)

/-- A character of `[a-zA-Z0-9_-]`. -/
def isLabelChar (c : Char) : Bool := c.isAlphanum || c = '_' || c = '-'

/-- `DomainRegex.MatchString` of `^[a-zA-Z0-9_-]+(\.[a-zA-Z0-9_-]+)*\.[a-zA-Z]{2,}$`,
read on the `.` fields of the text: at least two, all but the last of one or
more label characters, the last of two letters or more. -/
def domainRegexMatch (s : String) : Bool :=
  match (splitChars '.' s.toList).reverse with
  | last :: field :: fields =>
    (field :: fields).all (fun f => !f.isEmpty && f.all isLabelChar) && 2 ≤ last.length &&
      last.all Char.isAlpha
  | _ => false

/-- The message of a host that is no IP address. -/
def hostIncorrect (name : String) : String :=
  "HttpAppHealthy " ++ name ++ ", The IP address of the host is incorrect"

/-- The message of an IPv6 address outside brackets. -/
def hostIllegalFormat (name : String) : String :=
  "HttpAppHealthy " ++ name ++ ", using bad/illegal format or missing URL,example: http://[ipv6]:port"

/-- `ValidataAppHttpHealthyHost` of the task `name` and its host. The loop
over the hostname stops at its first `.` or `:`: a `.` makes it a domain or
an IPv4 address, with a port cut off, and a `:` an IPv6 address, which must
stand in the host between `[` and `]`. -/
def validataAppHttpHealthyHost (quote : String → String) (to4 to16 : String → Bool)
    (name host : String) : HostVerdict :=
  match GoUrl.parse host with
  | .error err =>
    .badRequest ("HttpAppHealthy " ++ name ++ ", The IP address of the host is incorrect,err: " ++
      err.text quote ++ " ")
  | .ok u =>
    let ip := u.hostname
    match ip.toList.find? (fun c => c = '.' || c = ':') with
    | none => .accepted
    | some c =>
      if c = '.' then
        let ipAddr := if contains ip ":" then String.ofList (ip.toList.take (index ip ":").toNat) else ip
        if domainRegexMatch ipAddr then .accepted
        else if !to4 ipAddr then .badRequest (hostIncorrect name)
        else .accepted
      else
        -- the first place of the hostname in the host, or `-1`
        let k := index host ip
        match charAt host (k - 1) with
        | .error (i, n) => .indexOutOfRange i n
        | .ok before =>
          if before ≠ '[' then .badRequest (hostIllegalFormat name)
          else
            match charAt host (k + ip.toList.length) with
            | .error (i, n) => .indexOutOfRange i n
            | .ok after =>
              if after ≠ ']' then .badRequest (hostIllegalFormat name)
              else if !to16 ip then .badRequest (hostIncorrect name)
              else .accepted

end KDoctor.PluginManager
