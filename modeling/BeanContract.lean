import BeanContract.Table
import BeanContract.Text.Quoted
import BeanContract.Text.TypeName
import BeanContract.Random.Engine
import BeanContract.Failure.Basic
import BeanContract.Value.Basic
import BeanContract.Bean.Blueprint
import BeanContract.Settings
import BeanContract.Factory.Catalog
import BeanContract.Context.Create
import BeanContract.Verifier
import BeanContract.Bean.Declaration
import BeanContract.Bean.Printer
import BeanContract.Record.Rule
import BeanContract.Value.Named
import BeanContract.Text.Decimal
import BeanContract.Text.Sorted
import BeanContract.Proofs.Draft.Stage
import BeanContract.Proofs.Check.RoundTrip
import BeanContract.Proofs.Check.Equality
import BeanContract.Proofs.Bean.Code
import BeanContract.Proofs.Bean.Description
import BeanContract.Proofs.Bean.Customisation
import BeanContract.Proofs.Bean.Declaration
import BeanContract.Proofs.Check.Observation
import BeanContract.Proofs.Check.Absence
import BeanContract.Proofs.Check.Attachment
import BeanContract.Proofs.Storage.Basic
import BeanContract.Proofs.Storage.Draft
import BeanContract.Proofs.Storage.Supply
import BeanContract.Proofs.Storage.RoundTrip
import BeanContract.Proofs.Storage.Equality
import BeanContract.Proofs.Storage.Absence
import BeanContract.Proofs.Context.Reach
import BeanContract.Proofs.Storage.Verifier
import BeanContract.Proofs.Context.Recursion
import BeanContract.Proofs.Context.Limit
import BeanContract.Proofs.Context.Account
import BeanContract.Proofs.Factory.Graph
import BeanContract.Proofs.Factory.Generation
import BeanContract.Proofs.Factory.Tower
import BeanContract.Proofs.Check.Inference
import BeanContract.Proofs.Check.Expectation
import BeanContract.Proofs.Context.Registration
import BeanContract.Proofs.Context.Transaction
import BeanContract.Proofs.Context.Moments
import BeanContract.Proofs.Draft.Pool
import BeanContract.Proofs.Context.PoolAccount
import BeanContract.Proofs.Context.Twin
import BeanContract.Proofs.Context.Replay
import BeanContract.Proofs.Context.Descriptions
import BeanContract.Proofs.Context.Interruption
import BeanContract.Proofs.Check.TriedNull
import BeanContract.Proofs.Check.Panic
import BeanContract.Proofs.Check.Ignored
import BeanContract.Proofs.Check.Flags
import BeanContract.Proofs.Draft.Preference
import BeanContract.Proofs.Context.Journal
import BeanContract.Proofs.Context.Numbering
import BeanContract.Proofs.Check.Journal
import BeanContract.Proofs.Check.Regime
import BeanContract.Proofs.Draft.Typing
import BeanContract.Proofs.Check.Typing
import BeanContract.Proofs.Draft.History
import BeanContract.Proofs.Draft.Slots
import BeanContract.Proofs.Check.Restoration
import BeanContract.Proofs.Check.Trials
import BeanContract.Proofs.Text.TypeName
