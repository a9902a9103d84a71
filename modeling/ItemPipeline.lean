import ItemPipeline.Main
import ItemPipeline.Proofs.Account
import ItemPipeline.Proofs.Batches
import ItemPipeline.Proofs.Composition
import ItemPipeline.Proofs.Config.Storage
import ItemPipeline.Proofs.Csv
import ItemPipeline.Proofs.Delta
import ItemPipeline.Proofs.Engine
import ItemPipeline.Proofs.Exposition.Extraction
import ItemPipeline.Proofs.Exposition.Joining
import ItemPipeline.Proofs.Exposition.Payload
import ItemPipeline.Proofs.Feed
import ItemPipeline.Proofs.History.Calls
import ItemPipeline.Proofs.JsonPath.Definite
import ItemPipeline.Proofs.JsonPath.Grammar
import ItemPipeline.Proofs.Numerals
import ItemPipeline.Proofs.Product
import ItemPipeline.Proofs.Range
import ItemPipeline.Proofs.Replacement
import ItemPipeline.Proofs.Search
import ItemPipeline.Proofs.Speed
import ItemPipeline.Proofs.Substitution
import ItemPipeline.Proofs.Throttle
import ItemPipeline.Proofs.Trimming
import ItemPipeline.Proofs.Workshop.Backlog
import ItemPipeline.Proofs.Workshop.FanOut
import ItemPipeline.Proofs.Workshop.Parallel
import ItemPipeline.Proofs.Workshop.Refinement
import ItemPipeline.Proofs.Workshop.Trials
import ItemPipeline.Proofs.Xml.Image
import ItemPipeline.Proofs.Xml.Rereading
import ItemPipeline.Value.Declared
