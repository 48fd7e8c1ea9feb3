import RollCall.Sql.Insert

/-!
# The tables

The statements that create what is missing of a schema. They are sent together, under a lock that
keeps two indexers from creating the same tables at once.
-/

set_option autoImplicit false

namespace RollCall.Ledger

/-- The lock under which tables are created. -/
def schemaLock : Nat := 1751212915

/-- The statements for a schema whose name is given in quotes. -/
def tableStatements (schema : String) : List String :=
  [
    s!"CREATE SCHEMA IF NOT EXISTS {schema}",
    s!"CREATE TABLE IF NOT EXISTS {schema}.index_progress (
      id TEXT PRIMARY KEY,
      height BIGINT NOT NULL,
      updated_at TIMESTAMPTZ NOT NULL DEFAULT now()
    )",
    s!"CREATE TABLE IF NOT EXISTS {schema}.validators (
      id BIGINT PRIMARY KEY,
      address TEXT NOT NULL,
      agent_url TEXT NOT NULL DEFAULT '',
      stake BIGINT NOT NULL DEFAULT 0
    )",
    s!"CREATE TABLE IF NOT EXISTS {schema}.proposals (
      id BIGINT PRIMARY KEY,
      proposer_index BIGINT NOT NULL,
      proposer_address TEXT NOT NULL,
      data BYTEA NOT NULL,
      new_height BIGINT NOT NULL,
      settle_height BIGINT NOT NULL DEFAULT 0,
      status BIGINT NOT NULL DEFAULT 0
    )",
    s!"CREATE INDEX IF NOT EXISTS proposals_new_height_idx ON {schema}.proposals (new_height)",
    s!"CREATE INDEX IF NOT EXISTS proposals_settle_height_idx ON {schema}.proposals (settle_height)",
    s!"CREATE INDEX IF NOT EXISTS proposals_proposer_address_idx ON {schema}.proposals (proposer_address)",
    s!"CREATE TABLE IF NOT EXISTS {schema}.grants (
      id BIGINT PRIMARY KEY,
      address TEXT NOT NULL,
      height BIGINT NOT NULL,
      stake BIGINT NOT NULL DEFAULT 0,
      proposer BIGINT NOT NULL,
      proposer_address TEXT NOT NULL,
      \"grant\" BOOLEAN NOT NULL
    )",
    s!"CREATE INDEX IF NOT EXISTS grants_height_idx ON {schema}.grants (height)",
    s!"CREATE TABLE IF NOT EXISTS {schema}.discussions (
      id BIGSERIAL PRIMARY KEY,
      proposal BIGINT NOT NULL,
      speaker_index BIGINT NOT NULL,
      speaker_address TEXT NOT NULL,
      data BYTEA NOT NULL,
      height BIGINT NOT NULL,
      event_index INTEGER NOT NULL
    )",
    s!"CREATE INDEX IF NOT EXISTS discussions_proposal_idx ON {schema}.discussions (proposal)",
    s!"CREATE UNIQUE INDEX IF NOT EXISTS discussions_height_event_idx ON {schema}.discussions (height, event_index)",
    s!"CREATE TABLE IF NOT EXISTS {schema}.proposal_votes (
      id BIGSERIAL PRIMARY KEY,
      proposal BIGINT NOT NULL,
      voter_index BIGINT NOT NULL,
      voter_address TEXT NOT NULL,
      height BIGINT NOT NULL,
      vote BIGINT NOT NULL
    )",
    s!"CREATE INDEX IF NOT EXISTS proposal_votes_height_voter_idx ON {schema}.proposal_votes (height, voter_index)",
    s!"CREATE INDEX IF NOT EXISTS proposal_votes_proposal_idx ON {schema}.proposal_votes (proposal)",
    s!"CREATE INDEX IF NOT EXISTS proposal_votes_voter_address_idx ON {schema}.proposal_votes (voter_address)",
    s!"CREATE TABLE IF NOT EXISTS {schema}.grant_votes (
      id BIGSERIAL PRIMARY KEY,
      proposer_index BIGINT NOT NULL,
      proposer_address TEXT NOT NULL,
      account_index BIGINT NOT NULL,
      account_addr TEXT NOT NULL,
      voter_index BIGINT NOT NULL,
      voter_address TEXT NOT NULL,
      height BIGINT NOT NULL,
      vote BIGINT NOT NULL
    )",
    s!"CREATE INDEX IF NOT EXISTS grant_votes_height_voter_idx ON {schema}.grant_votes (height, voter_index)",
    s!"CREATE INDEX IF NOT EXISTS grant_votes_account_idx ON {schema}.grant_votes (account_index)",
    s!"CREATE INDEX IF NOT EXISTS grant_votes_voter_address_idx ON {schema}.grant_votes (voter_address)"]

def schemaStatements (schema : String) : List String :=
  tableStatements (Sql.quoted schema)

/-- All of them as one text, which the database runs as one transaction. -/
def schemaScript (schema : String) : String :=
  Text.join ";\n" (s!"SELECT pg_advisory_xact_lock({schemaLock})" :: schemaStatements schema)

end RollCall.Ledger
