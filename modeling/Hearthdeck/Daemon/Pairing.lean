import Hearthdeck.Foundation.CalendarText
import Hearthdeck.Foundation.Pool
import Hearthdeck.Foundation.Table

/-!
# Pairing codes

A pairing code is stored with the time it expires at, as text.  A redemption
reads the row of its code, compares the time with the clock, marks the row as
consumed and inserts a client, in one transaction.  Whoever creates a code
first deletes the rows that can no longer be redeemed, by comparing the text
of the present time with the stored texts.

The database has one writer at a time.  What a transaction wrote is seen by
nobody before it commits, and one that read may go on to write only if nothing
was committed since; otherwise its statement fails.  A statement that finds
the database locked waits, or fails.

Reading a time back is the work of a library; what it reads is an argument
here.
-/

namespace Hearthdeck
namespace Daemon

open Foundation

/-- A row of `pairing_sessions`, below its `code_hash`. -/
structure PairingSession where
  expiresAt : String
  consumedAt : Option String
  /-- The number of the creation it comes from, and the instant its text was
  made of.  Read by no code. -/
  issue : Nat
  expires : UtcInstant
  deriving DecidableEq

/-- A row of `paired_clients`, below its `id`. -/
structure PairedClient where
  name : String
  tokenHash : String
  createdAt : String
  /-- The code it was minted from, when that expires, and the reading of the
  clock by which the redemption found it valid.  Read by no code. -/
  issue : Nat
  expires : UtcInstant
  judged : UtcInstant
  deriving DecidableEq

/-- The tables of `AuthRepository`. -/
structure AuthTables where
  sessions : Table String PairingSession
  clients : Table String PairedClient

/-- What a call of `consume_pairing_code` is given. -/
structure Redemption where
  codeHash : String
  clientName : String
  tokenHash : String
  deriving DecidableEq

/-- What a call returned. -/
inductive Returned
  /-- `create_pairing_code`. -/
  | created (result : Option UtcInstant)
  /-- `consume_pairing_code`: an error, nothing, or a client. -/
  | consumed (result : Except Unit (Option String))

/-- What the calls share, and what a run notes about it. -/
structure Auth where
  /-- What is committed. -/
  stored : AuthTables
  /-- How often something was committed. -/
  version : Nat := 0
  /-- What the transaction that holds the lock has made of the tables. -/
  writing : Option AuthTables := none
  /-- The last reading of the clock. -/
  clock : UtcInstant
  /-- How many codes were created.  Read by no code, as the next two. -/
  issued : Nat := 0
  /-- The codes that were pruned. -/
  pruned : List Nat := []
  /-- What the last step returned to its caller. -/
  returned : Option Returned := none

/-- A call, with the reading of the clock it starts with. -/
inductive AuthCall
  | createPairingCode (codeHash : String) (now : UtcInstant)
  | consumePairingCode (redemption : Redemption)

/-- The calls under way, each named by the statement it is about to make. -/
inductive AuthTask
  /-- `create_pairing_code`. -/
  | prune (codeHash : String) (now : UtcInstant)
  | insertSession (codeHash : String) (now : UtcInstant)
  /-- `consume_pairing_code`. -/
  | begin (redemption : Redemption)
  | select (redemption : Redemption)
  /-- The row was found valid, at a version of the database. -/
  | consume
      (codeHash : String)
      (snapshot : Nat)
      (id : String)
      (client : PairedClient)
  | insertClient (id : String) (client : PairedClient)
  | commit (id : String) (client : PairedClient)

/-- What a statement is answered from outside. -/
structure AuthAnswer where
  /-- The statement fails. -/
  fault : Bool := false
  /-- The next two readings of the clock. -/
  now : UtcInstant
  later : UtcInstant
  /-- The next fresh identifier. -/
  uuid : String := ""

namespace Auth

/-- How long a code is valid: five minutes. -/
def validity (now : UtcInstant) : UtcInstant :=
  now.plusSeconds 300 (by decide)

/-- The condition of the pruning. -/
def prunes (now : UtcInstant) (session : PairingSession) : Bool :=
  session.consumedAt.isSome || decide (session.expiresAt < now.toRfc3339)

/-- `create_pairing_code`, its deletion. -/
def prune
    (auth : Auth)
    (codeHash : String)
    (now : UtcInstant)
    (answer : AuthAnswer) : Auth × List AuthTask :=
  if answer.fault then
    ({ auth with returned := some (.created none) }, [])
  else if auth.writing.isSome then
    ({ auth with returned := none }, [.prune codeHash now])
  else
    let spent := auth.stored.sessions.entries.filter fun entry =>
      prunes now entry.2
    ({ auth with
        stored := { auth.stored with
          sessions := auth.stored.sessions.filter fun _ session =>
            !prunes now session }
        version :=
          if spent.isEmpty then auth.version else auth.version + 1
        pruned := auth.pruned ++ spent.map fun entry => entry.2.issue
        returned := none },
      [.insertSession codeHash now])

/-- `create_pairing_code`, its insertion. -/
def insertSession
    (auth : Auth)
    (codeHash : String)
    (now : UtcInstant)
    (answer : AuthAnswer) : Auth × List AuthTask :=
  if answer.fault then
    ({ auth with returned := some (.created none) }, [])
  else if auth.writing.isSome then
    ({ auth with returned := none }, [.insertSession codeHash now])
  else if (auth.stored.sessions.lookup codeHash).isSome then
    ({ auth with returned := some (.created none) }, [])
  else
    ({ auth with
        stored := { auth.stored with
          sessions := auth.stored.sessions.insert codeHash
            { expiresAt := (validity now).toRfc3339
              consumedAt := none
              issue := auth.issued
              expires := validity now } }
        version := auth.version + 1
        issued := auth.issued + 1
        returned := some (.created (some (validity now))) }, [])

/-- An end of `consume_pairing_code` before it wrote. -/
def refuse
    (auth : Auth)
    (result : Except Unit (Option String)) : Auth × List AuthTask :=
  ({ auth with returned := some (.consumed result) }, [])

/-- An end of `consume_pairing_code` that takes its writes back. -/
def rollBack (auth : Auth) : Auth × List AuthTask :=
  ({ auth with
      writing := none
      returned := some (.consumed (.error ())) }, [])

section Reading

/- How a time of RFC 3339 is read, as an instant. -/
variable (parse : String → Option UtcInstant)

/-- A redemption at a moment finds the row valid. -/
def accepts (session : PairingSession) (moment : UtcInstant) : Bool :=
  match parse session.expiresAt with
  | none => false
  | some expires =>
      !(session.consumedAt.isSome || decide (expires < moment))

/-- `consume_pairing_code`, its reading and what is decided from it. -/
def select
    (auth : Auth)
    (redemption : Redemption)
    (answer : AuthAnswer) : Auth × List AuthTask :=
  if answer.fault then
    auth.refuse (.error ())
  else
    let now := max auth.clock answer.now
    match auth.stored.sessions.lookup redemption.codeHash with
    | none => auth.refuse (.ok none)
    | some session =>
        if accepts parse session now then
          let created := max now answer.later
          ({ auth with
              clock := created
              returned := none },
            [.consume redemption.codeHash auth.version answer.uuid
              { name := redemption.clientName
                tokenHash := redemption.tokenHash
                createdAt := created.toRfc3339
                issue := session.issue
                expires := session.expires
                judged := now }])
        else
          { auth with clock := now }.refuse (.ok none)

/-- `consume_pairing_code`, its test-and-set, which takes the lock. -/
def consume
    (auth : Auth)
    (codeHash : String)
    (snapshot : Nat)
    (id : String)
    (client : PairedClient)
    (answer : AuthAnswer) : Auth × List AuthTask :=
  if answer.fault then
    auth.refuse (.error ())
  else if auth.writing.isSome then
    ({ auth with returned := none }, [.consume codeHash snapshot id client])
  else if snapshot ≠ auth.version then
    auth.refuse (.error ())
  else
    match auth.stored.sessions.lookup codeHash with
    | none => auth.refuse (.ok none)
    | some session =>
        if session.consumedAt.isSome then
          auth.refuse (.ok none)
        else
          ({ auth with
              writing := some { auth.stored with
                sessions := auth.stored.sessions.insert codeHash
                  { session with consumedAt := some client.createdAt } }
              returned := none },
            [.insertClient id client])

/-- The keys of a client are taken. -/
def taken (tables : AuthTables) (id : String) (client : PairedClient) : Bool :=
  (tables.clients.lookup id).isSome ||
    tables.clients.entries.any fun entry =>
      entry.2.tokenHash == client.tokenHash

/-- `consume_pairing_code`, its insertion. -/
def insertClient
    (auth : Auth)
    (id : String)
    (client : PairedClient)
    (answer : AuthAnswer) : Auth × List AuthTask :=
  match auth.writing with
  | none => auth.rollBack
  | some tables =>
      if answer.fault || taken tables id client then
        auth.rollBack
      else
        ({ auth with
            writing := some { tables with
              clients := tables.clients.insert id client }
            returned := none },
          [.commit id client])

/-- `consume_pairing_code`, its commit. -/
def commit
    (auth : Auth)
    (id : String)
    (answer : AuthAnswer) : Auth × List AuthTask :=
  match auth.writing with
  | none => auth.rollBack
  | some tables =>
      if answer.fault then
        auth.rollBack
      else
        ({ auth with
            stored := tables
            version := auth.version + 1
            writing := none
            returned := some (.consumed (.ok (some id))) }, [])

/-- The next statement of a call. -/
def perform
    (auth : Auth)
    (task : AuthTask)
    (answer : AuthAnswer) : Auth × List AuthTask :=
  match task with
  | .prune codeHash now => auth.prune codeHash now answer
  | .insertSession codeHash now => auth.insertSession codeHash now answer
  | .begin redemption =>
      if answer.fault then
        auth.refuse (.error ())
      else
        ({ auth with returned := none }, [.select redemption])
  | .select redemption => auth.select parse redemption answer
  | .consume codeHash snapshot id client =>
      auth.consume codeHash snapshot id client answer
  | .insertClient id client => auth.insertClient id client answer
  | .commit id _ => auth.commit id answer

end Reading

/-- A call starts.  A creation reads the clock first. -/
def enter (auth : Auth) : AuthCall → Auth × List AuthTask
  | .createPairingCode codeHash now =>
      ({ auth with
          clock := max auth.clock now
          returned := none },
        [.prune codeHash (max auth.clock now)])
  | .consumePairingCode redemption =>
      ({ auth with returned := none }, [.begin redemption])

/-- The pairing of clients as a program of calls. -/
def program
    (parse : String → Option UtcInstant) :
    Program Auth AuthTask AuthCall AuthAnswer where
  enter := enter
  perform := perform parse

/-- A database without codes and clients. -/
def start (clock : UtcInstant) : Auth where
  stored := ⟨∅, ∅⟩
  clock := clock

/-- The calls over their runs. -/
def machine
    (parse : String → Option UtcInstant)
    (clock : UtcInstant) :
    Machine (Pool Auth AuthTask) (Move AuthCall AuthAnswer) Unit :=
  (program parse).machine (start clock)

end Auth
end Daemon
end Hearthdeck
